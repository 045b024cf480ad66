import K50sv1.Data.Collect
import K50sv1.WmtLauncher.Firmware.Files

/-!
# Discovery from the contents of a directory

Both searches have one shape: a file either stops the search, has nothing to contribute,
or contributes something that has to agree with what other files contribute.  The result
of an undisturbed run is stated here in terms of the directory, with neither the run nor
its order in it.
-/

namespace K50sv1.WmtLauncher.Firmware

open K50sv1.Data

universe u v

variable {σ : Type u} {β : Type v} {stem : List UInt8}
  {inspect : EntryName → List UInt8 → Except Errno (Option β)}
  {examine : EntryName → List UInt8 → σ → Except Errno σ} {Agree : β → β → Prop}
  {Shows : List β → σ → Prop}

/-- The entry is a regular file with a name that starts with `stem`. -/
structure IsCandidate (stem : List UInt8) (entry : Entry) (content : List UInt8) : Prop where
  named : stem <+: entry.name.bytes
  regular : entry.node = .regular content

theorem IsCandidate.content_unique {entry : Entry} {content content' : List UInt8}
    (candidate : IsCandidate stem entry content) (regular : entry.node = .regular content') :
    content = content' :=
  Node.regular.inj (candidate.regular.symm.trans regular)

/-- Look at an entry, without regard to what has been found. -/
def inspectEntry (stem : List UInt8)
    (inspect : EntryName → List UInt8 → Except Errno (Option β)) (entry : Entry) :
    Except Errno (Option β) :=
  if ¬stem <+: entry.name.bytes then
    .ok none
  else
    match entry.node with
    | .regular content => inspect entry.name content
    | .special => .error .einval
    | .unopenable errno => .error errno

theorem inspectEntry_candidate {entry : Entry} {content : List UInt8}
    (candidate : IsCandidate stem entry content) :
    inspectEntry stem inspect entry = inspect entry.name content := by
  rw [inspectEntry, if_neg (not_not.mpr candidate.named), candidate.regular]

theorem considerEntry_candidate {entry : Entry} {content : List UInt8}
    (candidate : IsCandidate stem entry content) (found : σ) :
    considerEntry stem examine found entry = examine entry.name content found := by
  rw [considerEntry, if_neg (not_not.mpr candidate.named), candidate.regular]

/-- An entry is a candidate, has another name, or stops the search. -/
theorem inspectEntry_cases (stem : List UInt8)
    (inspect : EntryName → List UInt8 → Except Errno (Option β)) (entry : Entry) :
    (∃ content, IsCandidate stem entry content) ∨
      (¬stem <+: entry.name.bytes ∧ inspectEntry stem inspect entry = .ok none) ∨
      (stem <+: entry.name.bytes ∧ (∀ content, entry.node ≠ .regular content) ∧
        ∃ errno, inspectEntry stem inspect entry = .error errno) := by
  by_cases named : stem <+: entry.name.bytes
  case neg => exact .inr (.inl ⟨named, if_pos named⟩)
  rw [inspectEntry, if_neg (not_not.mpr named)]
  cases regular : entry.node with
  | regular content => exact .inl ⟨content, named, regular⟩
  | special => exact .inr (.inr ⟨named, by simp, _, rfl⟩)
  | unopenable errno => exact .inr (.inr ⟨named, by simp, _, rfl⟩)

theorem inspectEntry_eq_some_iff {entry : Entry} {found : β} :
    inspectEntry stem inspect entry = .ok (some found) ↔
      ∃ content, IsCandidate stem entry content ∧
        inspect entry.name content = .ok (some found) := by
  constructor
  · intro looked
    rcases inspectEntry_cases stem inspect entry with
      ⟨content, candidate⟩ | ⟨-, skipped⟩ | ⟨-, -, errno, failed⟩
    · rw [inspectEntry_candidate candidate] at looked
      exact ⟨content, candidate, looked⟩
    · rw [skipped] at looked
      cases looked
    · rw [failed] at looked
      cases looked
  · rintro ⟨content, candidate, looked⟩
    rw [inspectEntry_candidate candidate, looked]

theorem inspectEntry_isOk_iff {entry : Entry} :
    (∃ found, inspectEntry stem inspect entry = .ok found) ↔
      (stem <+: entry.name.bytes → ∃ content, entry.node = .regular content ∧
        ∃ found, inspect entry.name content = .ok found) := by
  rcases inspectEntry_cases stem inspect entry with
    ⟨content, candidate⟩ | ⟨other, skipped⟩ | ⟨named, special, errno, failed⟩
  · rw [inspectEntry_candidate candidate]
    constructor
    · exact fun examined _ => ⟨content, candidate.regular, examined⟩
    · intro readable
      obtain ⟨content', regular, examined⟩ := readable candidate.named
      rwa [candidate.content_unique regular]
  · exact ⟨fun _ named => absurd named other, fun _ => ⟨none, skipped⟩⟩
  · rw [failed]
    constructor
    · rintro ⟨found, ⟨⟩⟩
    · intro readable
      obtain ⟨content, regular, -⟩ := readable named
      exact absurd regular (special content)

/-- A collector of files is a collector of entries. -/
theorem entryCollector (stem : List UInt8)
    (collector : Collector (fun file : EntryName × List UInt8 => inspect file.1 file.2)
      (fun found file => examine file.1 file.2 found) Agree Shows) :
    Collector (inspectEntry stem inspect) (considerEntry stem examine) Agree Shows where
  failure found entry errno looked := by
    by_cases named : stem <+: entry.name.bytes
    case neg =>
      rw [inspectEntry, if_pos named] at looked
      cases looked
    rw [considerEntry, if_neg (not_not.mpr named)]
    cases regular : entry.node with
    | regular content =>
        rw [inspectEntry_candidate ⟨named, regular⟩] at looked
        exact collector.failure found (entry.name, content) errno looked
    | special => exact ⟨_, rfl⟩
    | unopenable errno => exact ⟨_, rfl⟩
  nothing found entry looked := by
    rcases inspectEntry_cases stem inspect entry with
      ⟨content, candidate⟩ | ⟨other, -⟩ | ⟨-, -, errno, failed⟩
    · rw [inspectEntry_candidate candidate] at looked
      rw [considerEntry_candidate candidate]
      exact collector.nothing found (entry.name, content) looked
    · exact if_pos other
    · rw [failed] at looked
      cases looked
  agreement entry found looked shown agree := by
    obtain ⟨content, candidate, looked⟩ := inspectEntry_eq_some_iff.mp looked
    rw [considerEntry_candidate candidate]
    exact collector.agreement (entry.name, content) found looked shown agree
  clash entry found looked shown member disagree := by
    obtain ⟨content, candidate, looked⟩ := inspectEntry_eq_some_iff.mp looked
    rw [considerEntry_candidate candidate]
    exact collector.clash (entry.name, content) found looked shown member disagree

/-- Every candidate of the directory is readable, and what they contribute agrees. -/
structure Discoverable (directory : Directory) (stem : List UInt8)
    (inspect : EntryName → List UInt8 → Except Errno (Option β)) (Agree : β → β → Prop) :
    Prop where
  readable : ∀ entry ∈ directory.entries, stem <+: entry.name.bytes →
    ∃ content, entry.node = .regular content ∧ ∃ found, inspect entry.name content = .ok found
  agree : ∀ entry ∈ directory.entries, ∀ other ∈ directory.entries, entry ≠ other →
    ∀ content content', IsCandidate stem entry content → IsCandidate stem other content' →
      ∀ found found', inspect entry.name content = .ok (some found) →
        inspect other.name content' = .ok (some found') → Agree found found'

/-- Something that a file of the directory contributes. -/
def Contributes (directory : Directory) (stem : List UInt8)
    (inspect : EntryName → List UInt8 → Except Errno (Option β)) (found : β) : Prop :=
  ∃ entry ∈ directory.entries, ∃ content, IsCandidate stem entry content ∧
    inspect entry.name content = .ok (some found)

theorem collectable_iff (symm : ∀ {first second}, Agree first second → Agree second first)
    {run : SearchRun} {directory : Directory} (lists : run.Lists directory) :
    Collector.Collectable (inspectEntry stem inspect) Agree run.order ↔
      Discoverable directory stem inspect Agree := by
  rw [Collector.Collectable, pairwise_contributions_iff symm lists.nodup]
  simp only [inspectEntry_isOk_iff, inspectEntry_eq_some_iff, lists.mem_iff]
  constructor
  · rintro ⟨readable, agree⟩
    refine ⟨readable, ?_⟩
    intro entry member other member' different content content' candidate candidate' found found'
      looked looked'
    exact agree entry member other member' different found found' ⟨content, candidate, looked⟩
      ⟨content', candidate', looked'⟩
  · intro discoverable
    refine ⟨discoverable.readable, ?_⟩
    rintro entry member other member' different found found' ⟨content, candidate, looked⟩
      ⟨content', candidate', looked'⟩
    exact discoverable.agree entry member other member' different content content' candidate
      candidate' found found' looked looked'

/-- An undisturbed run gets through exactly the discoverable directories.  The state it
reaches shows what the files contribute, each contribution once. -/
theorem searchDirectory_cases {consume : Candidate → σ → Except Errno σ}
    (consumes : Consumes consume examine)
    (collector : Collector (fun file : EntryName × List UInt8 => inspect file.1 file.2)
      (fun found file => examine file.1 file.2 found) Agree Shows)
    (symm : ∀ {first second}, Agree first second → Agree second first) {start : σ}
    (empty : Shows [] start) {run : SearchRun} (undisturbed : run.Undisturbed)
    {directory : Directory} (lists : run.Lists directory) :
    (Discoverable directory stem inspect Agree ∧
        ∃ found contributed, searchDirectory stem consume run start = .ok found ∧
          Shows contributed found ∧ contributed.Pairwise Agree ∧
          ∀ item, item ∈ contributed ↔ Contributes directory stem inspect item) ∨
      (¬Discoverable directory stem inspect Agree ∧
        ∃ errno, searchDirectory stem consume run start = .error errno) := by
  rw [searchDirectory_undisturbed consumes undisturbed, ← collectable_iff symm lists]
  rcases (entryCollector stem collector).foldlM_cases empty run.order with
    ⟨collectable, found, folded, shown⟩ | ⟨stuck, errno, folded⟩
  · refine .inl ⟨collectable, found, _, folded, shown, collectable.2, fun item => ?_⟩
    simp only [mem_contributions_iff, inspectEntry_eq_some_iff, lists.mem_iff, Contributes]
  · exact .inr ⟨stuck, errno, folded⟩

end K50sv1.WmtLauncher.Firmware
