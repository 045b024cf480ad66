import K50sv1.VendorBlobs.Extraction

/-!
# Extraction is all or nothing

Until `finish_extraction` is called with status 0 the previous contents of every tracked
name are below `VENDOR_OUTPUT` or in the backup; after a failure they are moved back.
Once all steps have passed the backup is dropped: what fails or interrupts the script from
then on changes its exit status, but restores nothing.
-/

namespace K50sv1.VendorBlobs

open K50sv1.Data
open K50sv1.Data.Snapshot
open K50sv1.Transition

namespace Extraction

variable {Content : Type}

/-- The backup is complete and not all steps have passed: a failure is to be undone. -/
def Recovering (state : Extraction Content) : Prop :=
  state.backupReady = true ∧ state.status ≠ some 0

theorem Recovering.ready_ne_false {state : Extraction Content}
    (recovering : state.Recovering) : state.backupReady ≠ false := by
  rw [recovering.1]
  exact nofun

/-- `finish_extraction` has not been called. -/
def Fresh (state : Extraction Content) : Prop :=
  state.status = none ∧ state.restored = []

/-- The restore still has the names of `rest` to go through. -/
def Pending (state : Extraction Content) (rest : List BackupFile) : Prop :=
  rest.Nodup ∧ ∀ name, name ∈ state.restored ↔ name ∉ rest

/-- Everything is back. -/
def Complete (state : Extraction Content) : Prop :=
  ∀ name, name ∈ state.restored

/-- What is known at each point of the script. -/
def Position (old : BackupFile → Option Content) (state : Extraction Content) : Pc → Prop
  | .assigning | .trapping =>
      state.backupReady = false ∧ state.Fresh ∧ state.files.saved = some fun _ => none
  | .copying rest => state.backupReady = false ∧ state.Fresh ∧ Copying old rest state.files
  | .working _ => state.backupReady = true ∧ state.Fresh
  | .entering code => state.restored = [] ∧ (code = 0 → state.status = some 0)
  | .removing rest code | .moved rest code =>
      state.Recovering ∧ code ≠ 0 ∧ state.Pending rest
  | .moving name rest code =>
      state.Recovering ∧ code ≠ 0 ∧ state.Pending (name :: rest) ∧ state.files.live name = none
  | .givingUp => state.cut = true
  | .dropping code => (state.Recovering → state.Complete) ∧ (code = 0 → state.status = some 0)
  | .cleaning code =>
      (state.Recovering → state.Complete) ∧ state.files.saved = none ∧
        (code = 0 → state.status = some 0)
  | .exited code =>
      (state.Recovering → state.cut = true ∨ (state.Complete ∧ state.files.saved = none)) ∧
        (code = 0 → state.status = some 0)

/-- Until the backup is complete the names are as they were; from then on, unless all steps
have passed, each is restored or in the backup. -/
structure Sound (old : BackupFile → Option Content) (state : Extraction Content) : Prop where
  untouched : state.backupReady = false → state.files.live = old
  covered : state.Recovering → Covers old state.restored state.files
  position : state.Position old state.pc

theorem sound_started (old : BackupFile → Option Content) : Sound old (started old) where
  untouched _ := rfl
  covered recovering := absurd rfl recovering.ready_ne_false
  position := ⟨rfl, ⟨rfl, rfl⟩, rfl⟩

/-! ## One step -/

section Step

variable {old : BackupFile → Option Content} {state after : Extraction Content}

theorem Sound.enter (sound : Sound old state) (fresh : state.Fresh) {status code : Nat}
    (zero : code = 0 → status = 0) : Sound old (state.enter status code) where
  untouched := sound.untouched
  covered recovering := by
    have unfinished : state.status ≠ some 0 := by
      rw [fresh.1]
      exact nofun
    exact sound.covered ⟨recovering.1, unfinished⟩
  position := ⟨fresh.2, fun none => congrArg some (zero none)⟩

/-- From `finish_extraction` on a nonzero status may end the script anywhere. -/
theorem Sound.abandon (sound : Sound old state) {code : Nat} (nonzero : code ≠ 0) :
    Sound old (state.abandon code) where
  untouched := sound.untouched
  covered := sound.covered
  position := ⟨fun _ => .inl rfl, fun zero => absurd zero nonzero⟩

theorem Sound.giveUp (sound : Sound old state) : Sound old state.giveUp where
  untouched := sound.untouched
  covered := sound.covered
  position := rfl

/-- A new position that says nothing new about the files. -/
theorem Sound.move (sound : Sound old state) {pc : Pc} (position : state.Position old pc) :
    Sound old { state with pc } where
  untouched := sound.untouched
  covered := sound.covered
  position := by
    cases pc <;> exact position

/-- The exit behind `cleanup`. -/
theorem Sound.leave (sound : Sound old state) {code : Nat}
    (complete : state.Recovering → state.Complete) (dropped : state.files.saved = none)
    (zero : code = 0 → state.status = some 0) : Sound old (state.exit code) :=
  sound.move ⟨fun recovering => .inr ⟨complete recovering, dropped⟩, zero⟩

theorem Pending.next {name : BackupFile} {rest : List BackupFile}
    (pending : state.Pending (name :: rest)) (other : BackupFile) :
    other ∈ name :: state.restored ↔ other ∉ rest := by
  have outside : name ∉ rest := (List.nodup_cons.1 pending.1).1
  rw [List.mem_cons, pending.2 other, List.mem_cons, not_or]
  constructor
  · rintro (rfl | ⟨_, missing⟩)
    · exact outside
    · exact missing
  · intro missing
    by_cases same : other = name
    · exact .inl same
    · exact .inr ⟨same, missing⟩

theorem Pending.not_mem {name : BackupFile} {rest : List BackupFile}
    (pending : state.Pending (name :: rest)) : name ∉ state.restored :=
  fun member => (pending.2 name).1 member List.mem_cons_self

theorem sound_interrupt (sound : Sound old state) {signal : Signal}
    (step : state.interrupt signal = some after) : Sound old after := by
  have nonzero := signal.status_ne_zero
  obtain ⟨files, ready, pc, status, restored, cut⟩ := state
  have position := sound.position
  cases pc with
  | assigning =>
      obtain rfl := Option.some.inj step
      have notReady : ready = false := position.1
      exact sound.move ⟨fun recovering => absurd notReady recovering.ready_ne_false,
        fun zero => absurd zero nonzero⟩
  | trapping =>
      obtain rfl := Option.some.inj step
      exact sound.enter position.2.1 fun _ => rfl
  | copying rest =>
      obtain rfl := Option.some.inj step
      exact sound.enter position.2.1 id
  | working work =>
      obtain rfl := Option.some.inj step
      exact sound.enter position.2 id
  | cleaning code =>
      obtain rfl := Option.some.inj step
      exact sound.leave position.1 position.2.1 fun zero => absurd zero nonzero
  | exited code => cases step
  -- in `finish_extraction` the trap for `EXIT` does not run again
  | _ =>
      obtain rfl := Option.some.inj step
      exact sound.abandon nonzero

theorem sound_fail (sound : Sound old state) {code : Nat} (nonzero : code ≠ 0)
    (step : state.fail code = some after) : Sound old after := by
  obtain ⟨files, ready, pc, status, restored, cut⟩ := state
  have position := sound.position
  unfold fail at step
  cases pc with
  | copying rest =>
      cases rest with
      | nil => cases step
      | cons name rest =>
          obtain ⟨_, entered⟩ := Option.ite_none_right_eq_some.1 step
          obtain rfl := Option.some.inj entered
          exact sound.enter position.2.1 id
  | working work =>
      obtain rfl := Option.some.inj step
      exact sound.enter position.2 id
  | removing rest target =>
      cases rest with
      | nil => cases step
      | cons name rest =>
          obtain rfl := Option.some.inj step
          exact sound.giveUp
  | moving name rest target =>
      obtain ⟨_, gaveUp⟩ := Option.ite_none_right_eq_some.1 step
      obtain rfl := Option.some.inj gaveUp
      exact sound.giveUp
  | moved rest target =>
      obtain rfl := Option.some.inj step
      exact sound.giveUp
  | givingUp =>
      obtain rfl := Option.some.inj step
      exact sound.move ⟨fun _ => .inl position, fun zero => absurd zero nonzero⟩
  | dropping target =>
      obtain rfl := Option.some.inj step
      exact sound.abandon nonzero
  | cleaning target =>
      obtain rfl := Option.some.inj step
      exact sound.leave position.1 position.2.1 fun zero => absurd zero nonzero
  | _ => cases step

/-- The next name is copied. -/
theorem Sound.copy {name : BackupFile} {rest : List BackupFile} (sound : Sound old state)
    (notReady : state.backupReady = false) (fresh : state.Fresh)
    (copying : Copying old (name :: rest) state.files) (present : state.present name = true) :
    Sound old { state with
      files := state.files.keep name (state.files.live name), pc := .copying rest } where
  untouched := sound.untouched
  covered recovering := absurd notReady recovering.ready_ne_false
  position := by
    refine ⟨notReady, fresh, copying.copy_head ?_⟩
    rw [← copying.live]
    exact Option.isSome_iff_ne_none.1 present

/-- The next name is absent. -/
theorem Sound.skipCopy {name : BackupFile} {rest : List BackupFile} (sound : Sound old state)
    (notReady : state.backupReady = false) (fresh : state.Fresh)
    (copying : Copying old (name :: rest) state.files) (missing : ¬ state.present name = true) :
    Sound old { state with pc := .copying rest } := by
  refine sound.move ⟨notReady, fresh, copying.skip_head ?_⟩
  rw [← copying.live]
  exact Option.not_isSome_iff_eq_none.1 missing

/-- The snapshot is complete. -/
theorem sound_ready (fresh : state.Fresh)
    (copying : Copying old [] state.files) :
    Sound old { state with pc := .working .extract, backupReady := true } where
  untouched := nofun
  covered _ := by
    rw [fresh.2]
    exact covers_of_saved copying.complete
  position := ⟨rfl, fresh⟩

/-- The test in `finish_extraction` asks for what makes a restore necessary. -/
theorem restores_iff : state.restores = true ↔ state.Recovering := by
  rw [restores, Bool.and_eq_true, decide_eq_true_iff, and_comm]
  rfl

theorem Sound.begin {code : Nat} (sound : Sound old state) (fresh : state.restored = [])
    (zero : code = 0 → state.status = some 0) (recovering : state.Recovering) :
    Sound old { state with pc := .removing backupFiles code } := by
  refine sound.move ⟨recovering, fun none => recovering.2 (zero none), nodup_backupFiles, ?_⟩
  intro name
  rw [fresh]
  exact ⟨fun member => absurd member List.not_mem_nil,
    fun missing => absurd (mem_backupFiles name) missing⟩

/-- A name is removed, wholly or in part. -/
theorem Sound.remove {name : BackupFile} {rest : List BackupFile} {pc : Pc}
    (sound : Sound old state) (recovering : state.Recovering)
    (pending : state.Pending (name :: rest)) (content : Option Content)
    (position : Position old { state with files := state.files.write name content } pc) :
    Sound old { state with files := state.files.write name content, pc } where
  untouched notReady := absurd notReady recovering.ready_ne_false
  covered recovering := (sound.covered recovering).write pending.not_mem content
  position := by
    cases pc <;> exact position

/-- The name was absent before, and is again. -/
theorem Sound.skip {name : BackupFile} {rest : List BackupFile} {code : Nat}
    (sound : Sound old state) (pc : state.pc = .moving name rest code)
    (missing : ¬ state.backedUp name = true) : Sound old (state.restoreNext name rest code) := by
  have position := sound.position
  rw [pc] at position
  obtain ⟨recovering, nonzero, pending, absent⟩ := position
  have unsaved : state.files.savedAt name = none := Option.not_isSome_iff_eq_none.1 missing
  exact ⟨sound.untouched,
    fun recovering => (sound.covered recovering).skip pending.not_mem unsaved absent,
    recovering, nonzero, (List.nodup_cons.1 pending.1).2, pending.next⟩

theorem sound_renames (sound : Sound old state) (step : state.renames = some after) :
    Sound old after := by
  have position := sound.position
  unfold renames at step
  cases pc : state.pc with
  | moving name rest code =>
      rw [pc] at position step
      obtain ⟨recovering, nonzero, pending, _⟩ := position
      obtain ⟨_, renamed⟩ := Option.ite_none_right_eq_some.1 step
      obtain rfl := Option.some.inj renamed
      exact ⟨fun notReady => absurd notReady recovering.ready_ne_false,
        fun recovering => (sound.covered recovering).takeBack pending.not_mem,
        recovering, nonzero, (List.nodup_cons.1 pending.1).2, pending.next⟩
  | _ =>
      rw [pc] at step
      cases step

theorem sound_advance (sound : Sound old state) (step : state.advance = some after) :
    Sound old after := by
  obtain ⟨files, ready, pc, status, restored, cut⟩ := state
  have position := sound.position
  unfold advance at step
  cases pc with
  | assigning =>
      obtain rfl := Option.some.inj step
      exact sound.move position
  | trapping =>
      obtain rfl := Option.some.inj step
      obtain ⟨notReady, fresh, saved⟩ := position
      exact sound.move
        ⟨notReady, fresh, copying_start mem_backupFiles (sound.untouched notReady) saved⟩
  | copying rest =>
      obtain ⟨notReady, fresh, copying⟩ := position
      cases rest with
      | nil =>
          obtain rfl := Option.some.inj step
          exact sound_ready fresh copying
      | cons name rest =>
          dsimp only at step
          split_ifs at step with present
          · obtain rfl := Option.some.inj step
            exact sound.copy notReady fresh copying present
          · obtain rfl := Option.some.inj step
            exact sound.skipCopy notReady fresh copying present
  | working work =>
      cases work with
      | makefiles =>
          obtain rfl := Option.some.inj step
          exact sound.enter position.2 id
      | _ =>
          obtain rfl := Option.some.inj step
          exact sound.move position
  | entering code =>
      obtain ⟨fresh, zero⟩ := position
      dsimp only at step
      split_ifs at step with restores
      · obtain rfl := Option.some.inj step
        exact sound.begin fresh zero (restores_iff.1 restores)
      · obtain rfl := Option.some.inj step
        exact sound.move ⟨fun recovering => absurd (restores_iff.2 recovering) restores, zero⟩
  | removing rest code =>
      obtain ⟨recovering, nonzero, pending⟩ := position
      cases rest with
      | nil =>
          obtain rfl := Option.some.inj step
          exact sound.move ⟨fun _ name => (pending.2 name).2 List.not_mem_nil,
            fun zero => absurd zero nonzero⟩
      | cons name rest =>
          obtain rfl := Option.some.inj step
          exact sound.remove recovering pending none
            ⟨recovering, nonzero, pending, Function.update_self ..⟩
  | moving name rest code =>
      obtain ⟨missing, skipped⟩ := Option.ite_none_left_eq_some.1 step
      obtain rfl := Option.some.inj skipped
      exact sound.skip rfl missing
  | moved rest code =>
      obtain rfl := Option.some.inj step
      exact sound.move position
  | givingUp =>
      obtain rfl := Option.some.inj step
      exact sound.move ⟨fun _ => .inl position, fun zero => absurd zero Nat.one_ne_zero⟩
  | dropping code =>
      obtain rfl := Option.some.inj step
      obtain ⟨complete, zero⟩ := position
      exact ⟨sound.untouched,
        fun recovering => (sound.covered recovering).saved_irrelevant (complete recovering) none,
        complete, rfl, zero⟩
  | cleaning code =>
      obtain rfl := Option.some.inj step
      obtain ⟨complete, dropped, zero⟩ := position
      exact sound.leave complete dropped zero
  | exited code => cases step

theorem sound_modify (sound : Sound old state) {name : BackupFile} {content : Option Content}
    (allowed : state.modifies name = true) :
    Sound old { state with files := state.files.write name content } := by
  have position := sound.position
  unfold modifies at allowed
  cases pc : state.pc with
  | working work =>
      rw [pc] at position
      obtain ⟨ready, fresh⟩ := position
      refine ⟨fun notReady => ?_, fun recovering => ?_, ?_⟩
      · rw [ready] at notReady
        cases notReady
      · refine (sound.covered recovering).write ?_ content
        rw [fresh.2]
        exact List.not_mem_nil
      · exact ⟨ready, fresh⟩
  | removing rest code =>
      rw [pc] at position allowed
      obtain ⟨recovering, nonzero, pending⟩ := position
      cases rest with
      | nil => cases allowed
      | cons first rest =>
          obtain rfl : name = first := of_decide_eq_true allowed
          exact sound.remove recovering pending content ⟨recovering, nonzero, pending⟩
  | _ =>
      rw [pc] at allowed
      cases allowed

theorem sound_modifyBackup (sound : Sound old state) {name : BackupFile}
    {content : Option Content} (allowed : state.modifiesBackup name = true) :
    Sound old { state with files := state.files.keep name content } := by
  have position := sound.position
  unfold modifiesBackup at allowed
  cases pc : state.pc with
  | copying rest =>
      rw [pc] at position allowed
      obtain ⟨notReady, fresh, copying⟩ := position
      cases rest with
      | nil => cases allowed
      | cons first rest =>
          obtain ⟨same, present⟩ := Bool.and_eq_true_iff.1 allowed
          obtain rfl : name = first := of_decide_eq_true same
          have there : old name ≠ none := by
            rw [← copying.live]
            exact Option.isSome_iff_ne_none.1 present
          exact ⟨sound.untouched, fun recovering => absurd notReady recovering.ready_ne_false,
            notReady, fresh, copying.keep_head there content⟩
  | dropping code =>
      rw [pc] at position
      exact ⟨sound.untouched,
        fun recovering => (sound.covered recovering).saved_irrelevant (position.1 recovering) _,
        position⟩
  | _ =>
      rw [pc] at allowed
      cases allowed

theorem sound_extractionStep (sound : Sound old state) {event : ExtractionEvent Content}
    (step : extractionStep state event = some after) : Sound old after := by
  cases event with
  | modify name content =>
      obtain ⟨allowed, modified⟩ := Option.ite_none_right_eq_some.1 step
      obtain rfl := Option.some.inj modified
      exact sound_modify sound allowed
  | modifyBackup name content =>
      obtain ⟨allowed, modified⟩ := Option.ite_none_right_eq_some.1 step
      obtain rfl := Option.some.inj modified
      exact sound_modifyBackup sound allowed
  | rename => exact sound_renames sound step
  | done => exact sound_advance sound step
  | failed status =>
      obtain ⟨nonzero, failed⟩ := Option.ite_none_left_eq_some.1 step
      exact sound_fail sound nonzero failed
  | signal signal => exact sound_interrupt sound step

end Step

/-! ## Every run -/

/-- All steps have passed and `finish_extraction` is called with status 0. -/
def Committed (state : Extraction Content) : Prop :=
  state.backupReady = true ∧ state.status = some 0

/-- What holds at a point of a run that began with the contents `old`. -/
structure AllOrNothing (old : BackupFile → Option Content) (state : Extraction Content) :
    Prop where
  /-- the previous contents are not lost -/
  available : ¬ state.Committed →
    ∀ name, state.files.live name = old name ∨ state.files.Holds old name
  /-- a failure is undone, if nothing fails or interrupts the restore -/
  undone : ∀ code, state.pc = .exited code → code ≠ 0 → state.backupReady = true →
    ¬ state.Committed → state.cut = false →
      state.files.live = old ∧ state.files.saved = none
  /-- in any case what is not restored is still in the backup -/
  kept : state.backupReady = true → ¬ state.Committed → ∀ name,
    (name ∈ state.restored → state.files.live name = old name) ∧
      (name ∉ state.restored → state.files.Holds old name)
  success : state.pc = .exited 0 → state.status = some 0

theorem recovering_iff {state : Extraction Content} :
    state.Recovering ↔ state.backupReady = true ∧ ¬ state.Committed := by
  rw [Recovering, Committed]
  constructor
  · rintro ⟨ready, unfinished⟩
    exact ⟨ready, fun committed => unfinished committed.2⟩
  · rintro ⟨ready, uncommitted⟩
    exact ⟨ready, fun finished => uncommitted ⟨ready, finished⟩⟩

theorem Sound.allOrNothing {old : BackupFile → Option Content} {state : Extraction Content}
    (sound : Sound old state) : state.AllOrNothing old where
  available uncommitted name := by
    cases ready : state.backupReady with
    | false => exact .inl (congrFun (sound.untouched ready) name)
    | true => exact (sound.covered (recovering_iff.2 ⟨ready, uncommitted⟩)).available name
  undone code exited _ ready uncommitted whole := by
    have recovering := recovering_iff.2 ⟨ready, uncommitted⟩
    have position := sound.position
    rw [exited] at position
    rcases position.1 recovering with cut | ⟨complete, dropped⟩
    · rw [cut] at whole
      cases whole
    · exact ⟨(sound.covered recovering).live_eq complete, dropped⟩
  kept ready uncommitted := sound.covered (recovering_iff.2 ⟨ready, uncommitted⟩)
  success exited := by
    have position := sound.position
    rw [exited] at position
    exact position.2 rfl

end Extraction

open Extraction

theorem extraction_all_or_nothing {Content : Type} (old : BackupFile → Option Content)
    {events : List (ExtractionEvent Content)} {state : Extraction Content}
    (run : Runs extractionStep (started old) events state) : state.AllOrNothing old :=
  (run.invariant (sound_started old) fun _ _ _ sound step =>
    sound_extractionStep sound step).allOrNothing

section Example

/-- A payload without makefiles. -/
def payload : BackupFile → Option Nat
  | .proprietary => some 1
  | _ => none

/-- The backup is made and `extract` has changed two names. -/
def extracting : List (ExtractionEvent Nat) :=
  List.replicate 8 .done ++ [.modify .proprietary (some 2), .modify .androidBp (some 3)]

/-- `extract` fails, and all five names are restored. -/
def undoing : List (ExtractionEvent Nat) :=
  extracting ++ [.failed 1, .done, .done, .rename] ++ List.replicate 12 .done

theorem undoing_enabled : (exec extractionStep (started payload) undoing).isSome := by
  decide

theorem extraction_all_or_nothing_failedExtract :
    ∃ state, Runs extractionStep (started payload) undoing state ∧ state.AllOrNothing payload ∧
      state.pc = .exited 1 ∧ state.files.live = payload ∧ state.files.saved = none := by
  have run := runs_get undoing_enabled
  have holds := extraction_all_or_nothing payload run
  have status :
      ((exec extractionStep (started payload) undoing).get undoing_enabled).status = some 1 := rfl
  have uncommitted :
      ¬ ((exec extractionStep (started payload) undoing).get undoing_enabled).Committed :=
    fun committed => nomatch status.symm.trans committed.2
  obtain ⟨live, saved⟩ := holds.undone 1 rfl Nat.one_ne_zero rfl uncommitted rfl
  exact ⟨_, run, holds, rfl, live, saved⟩

/-- All steps pass, the backup is removed, and `SIGTERM` comes before the script exits. -/
def interrupted : List (ExtractionEvent Nat) :=
  extracting ++ List.replicate 6 .done ++ [.signal .term]

theorem interrupted_enabled : (exec extractionStep (started payload) interrupted).isSome := by
  decide

/-- No operation has failed and the status is not 0, but nothing is restored. -/
theorem interrupted_not_restored :
    ∃ state, Runs extractionStep (started payload) interrupted state ∧
      (∀ status, .failed status ∉ interrupted) ∧ state.pc = .exited 143 ∧
      state.backupReady = true ∧ state.restored = [] ∧
      state.files.live .proprietary ≠ payload .proprietary ∧ state.files.saved = none := by
  refine ⟨_, runs_get interrupted_enabled, ?_, rfl, rfl, rfl, ?_, rfl⟩
  · simp [interrupted, extracting]
  · decide

end Example

end K50sv1.VendorBlobs
