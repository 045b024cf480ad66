import Mathlib.Logic.Function.Basic

/-!
# Contents under a snapshot

Contents under some keys and a snapshot of them, taken key by key and moved back key by
key.  While it is taken the contents are left alone; afterwards they may change as they
like.  What can be recovered is what was moved back, and what the snapshot still holds.
-/

namespace K50sv1.Data

universe u v

/-- Contents and, where it exists, their snapshot; a key without contents is absent. -/
structure Snapshot (κ : Type u) (ν : Type v) where
  live : κ → Option ν
  saved : Option (κ → Option ν)

namespace Snapshot

variable {κ : Type u} {ν : Type v}

/-- What the snapshot has under a key. -/
def savedAt (state : Snapshot κ ν) (key : κ) : Option ν :=
  state.saved.bind fun copy => copy key

/-- The snapshot exists and has what `old` has, absence included. -/
def Holds (old : κ → Option ν) (state : Snapshot κ ν) (key : κ) : Prop :=
  ∃ copy, state.saved = some copy ∧ copy key = old key

theorem Holds.savedAt_eq {old : κ → Option ν} {state : Snapshot κ ν} {key : κ}
    (holds : state.Holds old key) : state.savedAt key = old key := by
  obtain ⟨copy, saved, same⟩ := holds
  rw [savedAt, saved, Option.bind_some, same]

/-- The contents without their snapshot. -/
def discard (state : Snapshot κ ν) : Snapshot κ ν :=
  { state with saved := none }

variable [DecidableEq κ]

def write (state : Snapshot κ ν) (key : κ) (value : Option ν) : Snapshot κ ν :=
  { state with live := Function.update state.live key value }

/-- Something is put into the snapshot. -/
def keep (state : Snapshot κ ν) (key : κ) (value : Option ν) : Snapshot κ ν :=
  { state with saved := state.saved.map fun copy => Function.update copy key value }

/-- A key is moved back from the snapshot. -/
def takeBack (state : Snapshot κ ν) (key : κ) : Snapshot κ ν :=
  (state.write key (state.savedAt key)).keep key none

/-! ## Taking the snapshot -/

/-- The contents are unchanged and the snapshot is complete but for the `rest`. -/
structure Copying (old : κ → Option ν) (rest : List κ) (state : Snapshot κ ν) : Prop where
  live : state.live = old
  saved : ∃ copy, state.saved = some copy ∧ (∀ key, old key = none → copy key = none) ∧
    ∀ key, key ∉ rest → copy key = old key

section Copying

variable {old : κ → Option ν} {key : κ} {rest : List κ} {state : Snapshot κ ν}

omit [DecidableEq κ] in
theorem copying_start {keys : List κ} (all : ∀ key, key ∈ keys) (live : state.live = old)
    (empty : state.saved = some fun _ => none) : Copying old keys state where
  live := live
  saved := ⟨_, empty, fun _ _ => rfl, fun key absent => absurd (all key) absent⟩

/-- Until a key is copied the snapshot may have anything under it. -/
theorem Copying.keep_head (copying : Copying old (key :: rest) state)
    (present : old key ≠ none) (value : Option ν) :
    Copying old (key :: rest) (state.keep key value) := by
  obtain ⟨copy, saved, absent, copied⟩ := copying.saved
  refine ⟨copying.live, Function.update copy key value, ?_, ?_, ?_⟩
  · rw [keep, saved, Option.map_some]
  · intro other missing
    have different : other ≠ key := fun same => present (same ▸ missing)
    rw [Function.update_of_ne different]
    exact absent other missing
  · intro other outside
    have different : other ≠ key := fun same => outside (same ▸ List.mem_cons_self)
    rw [Function.update_of_ne different]
    exact copied other outside

theorem Copying.copy_head (copying : Copying old (key :: rest) state)
    (present : old key ≠ none) : Copying old rest (state.keep key (state.live key)) := by
  obtain ⟨live, copy', saved', absent', copied'⟩ :=
    copying.keep_head present (state.live key)
  obtain ⟨copy, saved, _⟩ := copying.saved
  refine ⟨live, copy', saved', absent', fun other outside => ?_⟩
  by_cases same : other = key
  · subst same
    rw [keep, saved, Option.map_some] at saved'
    rw [← Option.some.inj saved', Function.update_self, copying.live]
  · exact copied' other fun member => (List.mem_cons.1 member).elim same outside

omit [DecidableEq κ] in
theorem Copying.skip_head (copying : Copying old (key :: rest) state)
    (missing : old key = none) : Copying old rest state := by
  obtain ⟨copy, saved, absent, copied⟩ := copying.saved
  refine ⟨copying.live, copy, saved, absent, fun other outside => ?_⟩
  by_cases same : other = key
  · rw [same, absent key missing, missing]
  · exact copied other fun member => (List.mem_cons.1 member).elim same outside

omit [DecidableEq κ] in
theorem Copying.complete (copying : Copying old [] state) : state.saved = some old := by
  obtain ⟨copy, saved, _, copied⟩ := copying.saved
  rw [saved, funext fun key => copied key List.not_mem_nil]

end Copying

/-! ## Moving it back -/

/-- The keys of `restored` have their old contents again; the snapshot still holds all
others. -/
def Covers (old : κ → Option ν) (restored : List κ) (state : Snapshot κ ν) : Prop :=
  ∀ key, (key ∈ restored → state.live key = old key) ∧ (key ∉ restored → state.Holds old key)

section Covers

variable {old : κ → Option ν} {restored : List κ} {state : Snapshot κ ν} {key : κ}

omit [DecidableEq κ] in
theorem covers_of_saved (saved : state.saved = some old) : Covers old [] state :=
  fun _ => ⟨fun member => absurd member List.not_mem_nil, fun _ => ⟨old, saved, rfl⟩⟩

theorem Covers.available (covers : Covers old restored state) (key : κ) :
    state.live key = old key ∨ state.Holds old key := by
  by_cases member : key ∈ restored
  · exact .inl ((covers key).1 member)
  · exact .inr ((covers key).2 member)

omit [DecidableEq κ] in
theorem Covers.live_eq (covers : Covers old restored state) (all : ∀ key, key ∈ restored) :
    state.live = old :=
  funext fun key => (covers key).1 (all key)

omit [DecidableEq κ] in
/-- Once everything is back, the snapshot does not matter. -/
theorem Covers.saved_irrelevant (covers : Covers old restored state)
    (all : ∀ key, key ∈ restored) (saved : Option (κ → Option ν)) :
    Covers old restored { state with saved } :=
  fun key => ⟨(covers key).1, fun missing => absurd (all key) missing⟩

/-- What has not been moved back may be overwritten. -/
theorem Covers.write (covers : Covers old restored state) (pending : key ∉ restored)
    (value : Option ν) : Covers old restored (state.write key value) := by
  intro other
  refine ⟨fun member => ?_, (covers other).2⟩
  have different : other ≠ key := fun same => pending (same ▸ member)
  exact (Function.update_of_ne different _ _).trans ((covers other).1 member)

theorem Covers.takeBack (covers : Covers old restored state) (pending : key ∉ restored) :
    Covers old (key :: restored) (state.takeBack key) := by
  have savedAt := ((covers key).2 pending).savedAt_eq
  intro other
  constructor
  · intro member
    by_cases same : other = key
    · subst same
      exact (Function.update_self _ _ _).trans savedAt
    · have back : other ∈ restored := (List.mem_cons.1 member).resolve_left same
      exact (Function.update_of_ne same _ _).trans ((covers other).1 back)
  · intro outside
    have different : other ≠ key := fun same => outside (same ▸ List.mem_cons_self)
    obtain ⟨copy, saved, held⟩ :=
      (covers other).2 fun member => outside (List.mem_cons_of_mem _ member)
    refine ⟨Function.update copy key none, ?_, ?_⟩
    · exact congrArg (Option.map fun copy => Function.update copy key none) saved
    · rw [Function.update_of_ne different, held]

omit [DecidableEq κ] in
/-- A key that the snapshot lacks is back once it is absent. -/
theorem Covers.skip (covers : Covers old restored state) (pending : key ∉ restored)
    (missing : state.savedAt key = none) (absent : state.live key = none) :
    Covers old (key :: restored) state := by
  intro other
  constructor
  · intro member
    rcases List.mem_cons.1 member with same | back
    · rw [same, absent, ← missing, ((covers key).2 pending).savedAt_eq]
    · exact (covers other).1 back
  · intro outside
    exact (covers other).2 fun member => outside (List.mem_cons_of_mem _ member)

end Covers

end Snapshot

end K50sv1.Data
