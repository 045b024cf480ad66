import Mathlib.Data.List.Infix
import Mathlib.Data.List.Nodup
import Mathlib.Tactic.SplitIfs
import K50sv1.Data.Bytes
import K50sv1.WmtLauncher.Core

/-!
# Files and directories

Discovery walks through a directory and hands every candidate to a consumer, which reads
from it with `read_exact`.  A run lists what the system calls answer: the entries in the
order of `readdir`, and for each of them how its reads are split or interrupted and
which calls fail.  The contents belong to the directory and do not change during a run.

A run in which nothing but interruptions of `read` goes wrong is undisturbed.  The calls
then add nothing to what the directory holds: the search is a fold over its entries.
-/

namespace K50sv1.WmtLauncher.Firmware

/-! ## Reading -/

/-- How the kernel answers one `read`. -/
inductive ReadAnswer where
  /-- The call fails. -/
  | failed (errno : Errno)
  /-- At most `more + 1` bytes are transferred. -/
  | upTo (more : Nat)
  deriving DecidableEq, Repr

/-- A file descriptor of a regular file, with the answers to the reads to come.  When
these run out, a read transfers all it was asked for. -/
structure OpenFile where
  content : List UInt8
  offset : Nat
  answers : List ReadAnswer
  seekFault : Option Errno
  deriving DecidableEq, Repr

namespace OpenFile

/-- The `read` system call. -/
def read (file : OpenFile) (size : Nat) : Except Errno (List UInt8) × OpenFile :=
  let available := (file.content.drop file.offset).take size
  match file.answers with
  | [] => (.ok available, { file with offset := file.offset + available.length })
  | .failed errno :: answers => (.error errno, { file with answers })
  | .upTo more :: answers =>
      let bytes := available.take (more + 1)
      (.ok bytes, { file with offset := file.offset + bytes.length, answers })

/-- The `lseek` system call to the start. -/
def rewind (file : OpenFile) : Except Errno OpenFile :=
  match file.seekFault with
  | some errno => .error errno
  | none => .ok { file with offset := 0 }

/-- Reads are only interrupted. -/
def Undisturbed (file : OpenFile) : Prop :=
  ∀ errno, .failed errno ∈ file.answers → errno = .eintr

/-- The bytes not read yet. -/
def rest (file : OpenFile) : List UInt8 :=
  file.content.drop file.offset

/-- A failed read leaves the position and consumes an answer. -/
theorem read_error {file after : OpenFile} {size : Nat} {errno : Errno}
    (result : file.read size = (.error errno, after)) :
    file.answers = .failed errno :: after.answers ∧
      after = { file with answers := after.answers } := by
  unfold read at result
  split at result
  · cases result
  · next answers _ =>
    cases result
    exact ⟨‹_›, rfl⟩
  · cases result

/-- A read that succeeds transfers the first bytes of what is left: as many as there is
room for, unless the kernel stops earlier. -/
theorem read_ok {file after : OpenFile} {size : Nat} {bytes : List UInt8}
    (room : 0 < size) (result : file.read size = (.ok bytes, after)) :
    (∃ transfer, 0 < transfer ∧ transfer ≤ size ∧ bytes = file.rest.take transfer) ∧
      after.answers <:+ file.answers ∧
      after = { file with offset := file.offset + bytes.length, answers := after.answers } := by
  unfold read at result
  split at result
  · cases result
    exact ⟨⟨size, room, Nat.le_refl size, rfl⟩, List.suffix_refl _, rfl⟩
  · cases result
  · next more answers same =>
    cases result
    refine ⟨⟨min (more + 1) size, by omega, Nat.min_le_right _ _, ?_⟩,
      same ▸ List.suffix_cons _ _, rfl⟩
    rw [List.take_take]
    rfl

/-- What a read leaves is what it did not transfer. -/
theorem read_ok_rest {file after : OpenFile} {size : Nat} {bytes : List UInt8}
    (room : 0 < size) (result : file.read size = (.ok bytes, after)) :
    file.rest = bytes ++ after.rest ∧ bytes.length ≤ size := by
  obtain ⟨⟨transfer, -, fits, part⟩, -, same⟩ := read_ok room result
  have position : after.rest = file.rest.drop bytes.length := by
    rw [same, rest, rest, List.drop_drop]
  have length : bytes.length = min transfer file.rest.length := by
    rw [part, List.length_take]
  constructor
  · rw [position, part, List.length_take]
    rcases Nat.le_total transfer file.rest.length with inside | outside
    · rw [Nat.min_eq_left inside, List.take_append_drop]
    · rw [Nat.min_eq_right outside, List.take_of_length_le outside, List.drop_length,
        List.append_nil]
  · omega

end OpenFile

/-- `read_exact` into a buffer of `size` bytes. -/
def readExact (file : OpenFile) (size : Nat) : Except Errno (List UInt8) × OpenFile :=
  if _done : size = 0 then
    (.ok [], file)
  else
    match _result : file.read size with
    | (.error errno, after) =>
        if errno = .eintr then readExact after size else (.error errno, after)
    | (.ok [], after) => (.error .emsgsize, after)
    | (.ok (byte :: bytes), after) =>
        match readExact after (size - (byte :: bytes).length) with
        | (.ok more, final) => (.ok (byte :: bytes ++ more), final)
        | (.error errno, final) => (.error errno, final)
termination_by file.answers.length + size
decreasing_by
  · rw [(OpenFile.read_error _result).1, List.length_cons]
    omega
  · have fewer := (OpenFile.read_ok (Nat.pos_of_ne_zero _done) _result).2.1.length_le
    rw [List.length_cons]
    omega

/-- `read` until it is not interrupted. -/
def readUninterrupted (file : OpenFile) (size : Nat) : Except Errno (List UInt8) × OpenFile :=
  match _result : file.read size with
  | (.error errno, after) =>
      if errno = .eintr then readUninterrupted after size else (.error errno, after)
  | (.ok bytes, after) => (.ok bytes, after)
termination_by file.answers.length
decreasing_by
  rw [(OpenFile.read_error _result).1, List.length_cons]
  omega

namespace OpenFile

theorem Undisturbed.of_suffix {file after : OpenFile} (undisturbed : file.Undisturbed)
    (suffix : after.answers <:+ file.answers) : after.Undisturbed :=
  fun errno member => undisturbed errno (suffix.mem member)

end OpenFile

/-- Splits and interruptions do not show in what `read_exact` gets. -/
theorem readExact_undisturbed {file : OpenFile} (undisturbed : file.Undisturbed) (size : Nat) :
    (size ≤ file.rest.length ∧
      ∃ answers, answers <:+ file.answers ∧
        readExact file size =
          (.ok (file.rest.take size), { file with offset := file.offset + size, answers })) ∨
    (file.rest.length < size ∧ (readExact file size).1 = .error .emsgsize) := by
  fun_induction readExact file size with
  | case1 file =>
      exact .inl ⟨Nat.zero_le _, file.answers, List.suffix_refl _, rfl⟩
  | case2 file size nonzero after result ih =>
      obtain ⟨interrupted, same⟩ := OpenFile.read_error result
      have shorter : after.answers <:+ file.answers := interrupted ▸ List.suffix_cons _ _
      have sameRest : after.rest = file.rest := by
        rw [same]
        rfl
      rw [sameRest] at ih
      rcases ih (undisturbed.of_suffix shorter) with ⟨enough, answers, suffix, read⟩ | short
      · refine .inl ⟨enough, answers, suffix.trans shorter, ?_⟩
        rw [read, same]
      · exact .inr short
  | case3 file size nonzero errno after result failed =>
      have member : .failed errno ∈ file.answers := by
        rw [(OpenFile.read_error result).1]
        exact List.mem_cons_self
      exact absurd (undisturbed errno member) failed
  | case4 file size nonzero after result =>
      obtain ⟨⟨transfer, positive, -, empty⟩, -⟩ :=
        OpenFile.read_ok (Nat.pos_of_ne_zero nonzero) result
      have nothingLeft : file.rest = [] := by
        rcases List.take_eq_nil_iff.mp empty.symm with zero | nil
        · omega
        · exact nil
      rw [nothingLeft]
      exact .inr ⟨Nat.pos_of_ne_zero nonzero, rfl⟩
  | case5 file size nonzero byte bytes after result more final rest ih =>
      obtain ⟨split, fits⟩ := OpenFile.read_ok_rest (Nat.pos_of_ne_zero nonzero) result
      obtain ⟨-, suffix, same⟩ := OpenFile.read_ok (Nat.pos_of_ne_zero nonzero) result
      rw [rest] at ih
      rcases ih (undisturbed.of_suffix suffix) with ⟨enough, answers, later, read⟩ | ⟨-, failed⟩
      · cases read
        left
        refine ⟨by rw [split, List.length_append]; omega, answers, later.trans suffix, ?_⟩
        rw [split, List.take_append, List.take_of_length_le fits, same]
        simp only [Nat.add_assoc, Nat.add_sub_cancel' fits]
      · contradiction
  | case6 file size nonzero byte bytes after result errno final failed ih =>
      obtain ⟨split, fits⟩ := OpenFile.read_ok_rest (Nat.pos_of_ne_zero nonzero) result
      obtain ⟨-, suffix, same⟩ := OpenFile.read_ok (Nat.pos_of_ne_zero nonzero) result
      rw [failed] at ih
      rcases ih (undisturbed.of_suffix suffix) with ⟨-, answers, -, read⟩ | ⟨short, error⟩
      · cases read
      · right
        exact ⟨by rw [split, List.length_append]; omega, error⟩

/-- At the end of an undisturbed file there is nothing to read. -/
theorem readUninterrupted_end {file : OpenFile} (undisturbed : file.Undisturbed)
    (atEnd : file.rest = []) {size : Nat} (room : 0 < size) :
    (readUninterrupted file size).1 = .ok [] := by
  fun_induction readUninterrupted file size with
  | case1 file after result ih =>
      obtain ⟨interrupted, same⟩ := OpenFile.read_error result
      apply ih (undisturbed.of_suffix (interrupted ▸ List.suffix_cons _ _))
      rw [same]
      exact atEnd
  | case2 file errno after result failed =>
      have member : .failed errno ∈ file.answers := by
        rw [(OpenFile.read_error result).1]
        exact List.mem_cons_self
      exact absurd (undisturbed errno member) failed
  | case3 file bytes after result =>
      obtain ⟨⟨transfer, -, -, part⟩, -⟩ := OpenFile.read_ok room result
      rw [part, atEnd, List.take_nil]

/-! ## Directories -/

/-- The name of a directory entry. -/
structure EntryName where
  bytes : List UInt8
  nonempty : bytes ≠ []
  noNul : 0 ∉ bytes
  noSlash : 0x2f ∉ bytes
  short : bytes.length < 256
  deriving DecidableEq, Repr

/-- What opening an entry leads to, symbolic links followed. -/
inductive Node where
  | regular (content : List UInt8)
  | special
  | unopenable (errno : Errno)
  deriving DecidableEq, Repr

structure Entry where
  name : EntryName
  node : Node
  deriving DecidableEq, Repr

/-- The contents of a directory, in no particular order. -/
structure Directory where
  entries : List Entry
  distinct : (entries.map Entry.name).Nodup

/-- One entry as a run meets it: what the calls on it answer. -/
structure Visit where
  entry : Entry
  openFault : Option Errno
  statFault : Option Errno
  /-- The size that `fstat` reports. -/
  statSize : Nat
  answers : List ReadAnswer
  seekFault : Option Errno
  /-- Whether `malloc` has memory. -/
  allocates : Bool
  closeFault : Option Errno
  deriving DecidableEq, Repr

/-- One run of `search_directory`.  When `readdir` fails, `visits` are the entries it
yielded before. -/
structure SearchRun where
  opendirFault : Option Errno
  visits : List Visit
  readdirFault : Option Errno
  closedirFault : Option Errno
  deriving DecidableEq, Repr

/-- What `search_directory` hands to its consumer. -/
structure Candidate where
  file : OpenFile
  size : Nat
  name : EntryName
  allocates : Bool
  deriving DecidableEq, Repr

/-- The `openat` system call.  Without a content the descriptor is not that of a regular
file. -/
def Visit.openat (visit : Visit) : Except Errno (Option (List UInt8)) :=
  match visit.openFault, visit.entry.node with
  | some errno, _ => .error errno
  | none, .unopenable errno => .error errno
  | none, .special => .ok none
  | none, .regular content => .ok (some content)

/-- The candidate of a visit whose entry is a regular file. -/
def Visit.candidate (visit : Visit) (content : List UInt8) : Candidate where
  file := { content, offset := 0, answers := visit.answers, seekFault := visit.seekFault }
  size := visit.statSize
  name := visit.entry.name
  allocates := visit.allocates

section Search

universe u

variable {σ : Type u} (stem : List UInt8) (consume : Candidate → σ → Except Errno σ)

/-- An error already met is kept through the cleanup. -/
def unlessFault (result : Except Errno σ) (fault : Option Errno) : Except Errno σ :=
  match result, fault with
  | .ok _, some errno => .error errno
  | result, _ => result

@[simp]
theorem unlessFault_none (result : Except Errno σ) : unlessFault result none = result := by
  cases result <;> rfl

/-- The body of the loop of `search_directory`. -/
def visitEntry (found : σ) (visit : Visit) : Except Errno σ :=
  if ¬stem <+: visit.entry.name.bytes then
    .ok found
  else
    match visit.openat with
    | .error errno => .error errno
    | .ok file =>
        unlessFault
          (match visit.statFault, file with
          | some errno, _ => .error errno
          | none, none => .error .einval
          | none, some content => consume (visit.candidate content) found)
          visit.closeFault

/-- `stem` is the source's `prefix`. -/
def searchDirectory (run : SearchRun) (found : σ) : Except Errno σ :=
  match run.opendirFault with
  | some errno => .error errno
  | none =>
      unlessFault
        (unlessFault (run.visits.foldlM (visitEntry stem consume) found) run.readdirFault)
        run.closedirFault

end Search

/-! Whatever fails, a property that the consumer preserves holds of what is found. -/

section Invariant

universe u

variable {σ : Type u} {stem : List UInt8} {consume : Candidate → σ → Except Errno σ} {P : σ → Prop}

theorem eq_ok_of_unlessFault {result : Except Errno σ} {fault : Option Errno} {found : σ}
    (succeeded : unlessFault result fault = .ok found) : result = .ok found := by
  cases result with
  | error errno => cases succeeded
  | ok value =>
      cases fault with
      | none => exact succeeded
      | some errno => cases succeeded

theorem visitEntry_invariant
    (preserves : ∀ candidate found after, stem <+: candidate.name.bytes → P found →
      consume candidate found = .ok after → P after)
    {visit : Visit} {found after : σ} (holds : P found)
    (visited : visitEntry stem consume found visit = .ok after) : P after := by
  rw [visitEntry] at visited
  split_ifs at visited with named
  case neg => exact Except.ok.inj visited ▸ holds
  split at visited
  · cases visited
  · have result := eq_ok_of_unlessFault visited
    split at result
    · cases result
    · cases result
    · exact preserves _ _ _ named holds result

theorem searchDirectory_invariant
    (preserves : ∀ candidate found after, stem <+: candidate.name.bytes → P found →
      consume candidate found = .ok after → P after)
    {run : SearchRun} {start found : σ} (holds : P start)
    (searched : searchDirectory stem consume run start = .ok found) : P found := by
  have loop : ∀ (visits : List Visit) (start found : σ), P start →
      visits.foldlM (visitEntry stem consume) start = .ok found → P found := by
    intro visits
    induction visits with
    | nil =>
        intro start found holds folded
        exact Except.ok.inj folded ▸ holds
    | cons visit visits ih =>
        intro start found holds folded
        rw [List.foldlM_cons] at folded
        cases visited : visitEntry stem consume start visit with
        | error errno =>
            rw [visited] at folded
            cases folded
        | ok after =>
            rw [visited] at folded
            exact ih after found (visitEntry_invariant preserves holds visited) folded
  rw [searchDirectory] at searched
  split at searched
  · cases searched
  · exact loop _ _ _ holds (eq_ok_of_unlessFault (eq_ok_of_unlessFault searched))

end Invariant

/-- Nothing but interruptions of `read` goes wrong at this entry. -/
structure Visit.Undisturbed (visit : Visit) : Prop where
  opens : visit.openFault = none
  stats : visit.statFault = none
  size : ∀ content, visit.entry.node = .regular content → visit.statSize = content.length
  reads : ∀ errno, .failed errno ∈ visit.answers → errno = .eintr
  seeks : visit.seekFault = none
  allocation : visit.allocates = true
  closes : visit.closeFault = none

structure SearchRun.Undisturbed (run : SearchRun) : Prop where
  opens : run.opendirFault = none
  reads : run.readdirFault = none
  closes : run.closedirFault = none
  visits : ∀ visit ∈ run.visits, visit.Undisturbed

/-- The order in which a run meets the entries. -/
def SearchRun.order (run : SearchRun) : List Entry :=
  run.visits.map Visit.entry

/-- The run meets every entry of the directory once. -/
def SearchRun.Lists (run : SearchRun) (directory : Directory) : Prop :=
  run.order.Perm directory.entries

section Lists

variable {run : SearchRun} {directory : Directory}

theorem SearchRun.Lists.mem_iff (lists : run.Lists directory) {entry : Entry} :
    entry ∈ run.order ↔ entry ∈ directory.entries :=
  List.Perm.mem_iff lists

theorem SearchRun.Lists.nodup (lists : run.Lists directory) : run.order.Nodup :=
  (List.Perm.nodup_iff lists).mpr (List.Nodup.of_map Entry.name directory.distinct)

end Lists

/-! Every order of the entries and every way of interrupting the reads has a run. -/

/-- The visit of an entry at which nothing but `answers` is special. -/
def Visit.ofEntry (answers : List ReadAnswer) (entry : Entry) : Visit where
  entry
  openFault := none
  statFault := none
  statSize :=
    match entry.node with
    | .regular content => content.length
    | _ => 0
  answers
  seekFault := none
  allocates := true
  closeFault := none

/-- The run that meets the given entries. -/
def SearchRun.ofEntries (answers : List ReadAnswer) (entries : List Entry) : SearchRun where
  opendirFault := none
  visits := entries.map (Visit.ofEntry answers)
  readdirFault := none
  closedirFault := none

theorem SearchRun.ofEntries_undisturbed (answers : List ReadAnswer)
    (interrupted : ∀ errno, .failed errno ∈ answers → errno = .eintr) (entries : List Entry) :
    (SearchRun.ofEntries answers entries).Undisturbed := by
  constructor
  · rfl
  · rfl
  · rfl
  · intro visit member
    obtain ⟨entry, -, rfl⟩ := List.mem_map.mp member
    constructor
    case size =>
      intro content regular
      change entry.node = .regular content at regular
      rw [Visit.ofEntry, regular]
    case reads => exact interrupted
    all_goals rfl

theorem SearchRun.ofEntries_lists (answers : List ReadAnswer) {entries : List Entry}
    {directory : Directory} (ordered : entries.Perm directory.entries) :
    (SearchRun.ofEntries answers entries).Lists directory := by
  rw [SearchRun.Lists, SearchRun.order, SearchRun.ofEntries, List.map_map]
  exact (List.Perm.of_eq (List.map_id _)).trans ordered

section Undisturbed

universe u

variable {σ : Type u} {stem : List UInt8} {consume : Candidate → σ → Except Errno σ}

/-- What a consumer does with an entry, as a function of the entry alone. -/
def considerEntry (stem : List UInt8) (examine : EntryName → List UInt8 → σ → Except Errno σ)
    (found : σ) (entry : Entry) : Except Errno σ :=
  if ¬stem <+: entry.name.bytes then
    .ok found
  else
    match entry.node with
    | .regular content => examine entry.name content found
    | .special => .error .einval
    | .unopenable errno => .error errno

/-- The consumer gets out of an undisturbed candidate what its content says. -/
def Consumes (consume : Candidate → σ → Except Errno σ)
    (examine : EntryName → List UInt8 → σ → Except Errno σ) : Prop :=
  ∀ candidate : Candidate, candidate.file.Undisturbed → candidate.file.offset = 0 →
    candidate.file.seekFault = none → candidate.size = candidate.file.content.length →
    candidate.allocates = true → ∀ found,
    consume candidate found = examine candidate.name candidate.file.content found

theorem visitEntry_undisturbed {examine : EntryName → List UInt8 → σ → Except Errno σ}
    (consumes : Consumes consume examine) {visit : Visit} (undisturbed : visit.Undisturbed)
    (found : σ) :
    visitEntry stem consume found visit = considerEntry stem examine found visit.entry := by
  unfold visitEntry considerEntry
  rw [Visit.openat, undisturbed.opens, undisturbed.stats, undisturbed.closes]
  split_ifs with candidate
  case neg => rfl
  cases node : visit.entry.node with
  | special => rfl
  | unopenable errno => rfl
  | regular content =>
      change unlessFault (consume (visit.candidate content) found) none = _
      have result := consumes (visit.candidate content) undisturbed.reads rfl
        undisturbed.seeks (undisturbed.size content node) undisturbed.allocation found
      rw [result, unlessFault_none]
      rfl

/-- The search of an undisturbed run is a fold over the entries. -/
theorem searchDirectory_undisturbed {examine : EntryName → List UInt8 → σ → Except Errno σ}
    (consumes : Consumes consume examine) {run : SearchRun} (undisturbed : run.Undisturbed)
    (found : σ) :
    searchDirectory stem consume run found =
      run.order.foldlM (considerEntry stem examine) found := by
  have loop : ∀ visits : List Visit, (∀ visit ∈ visits, visit.Undisturbed) → ∀ found,
      visits.foldlM (visitEntry stem consume) found =
        (visits.map Visit.entry).foldlM (considerEntry stem examine) found := by
    intro visits calm
    induction visits with
    | nil => exact fun _ => rfl
    | cons visit visits ih =>
        intro found
        rw [List.forall_mem_cons] at calm
        rw [List.map_cons, List.foldlM_cons, List.foldlM_cons,
          visitEntry_undisturbed consumes calm.1]
        exact congrArg _ (funext (ih calm.2))
  rw [searchDirectory, undisturbed.opens, undisturbed.reads, undisturbed.closes,
    loop run.visits undisturbed.visits]
  exact (unlessFault_none _).trans (unlessFault_none _)

end Undisturbed

end K50sv1.WmtLauncher.Firmware
