import K50sv1.WmtLauncher.Firmware.Patch

/-!
# Normal patches and the directory

The search succeeds on exactly the directories that hold one complete set of patches and
no malformed candidate.  Neither the order of the directory nor the way in which reads
are split or interrupted shows in the result.
-/

namespace K50sv1.WmtLauncher.Firmware

open K50sv1.Data
open K50sv1.Data.Bytes

/-! ## What the directory says -/

/-- The entry is a patch for this firmware. -/
structure IsPatch (firmware : UInt16) (entry : Entry) (content : List UInt8) : Prop extends
    IsCandidate patchStem entry content where
  matching : content.getD 23 0 = firmware.toUInt8

/-- The directory holds a complete set of `count` patches and no malformed candidate. -/
structure PatchDirectory (directory : Directory) (firmware : UInt16) (count : Nat) : Prop where
  regular : ∀ entry ∈ directory.entries, patchStem <+: entry.name.bytes →
    ∃ content, entry.node = .regular content ∧ 28 ≤ content.length
  bounds : 1 ≤ count ∧ count ≤ 10
  nibbles : ∀ entry ∈ directory.entries, ∀ content, IsPatch firmware entry content →
    countNibble content = count ∧ 1 ≤ sequenceNibble content ∧ sequenceNibble content ≤ count
  sequences : ∀ sequence, 1 ≤ sequence → sequence ≤ count →
    ∃! entry, entry ∈ directory.entries ∧
      ∃ content, IsPatch firmware entry content ∧ sequenceNibble content = sequence

/-- The result lists the patches of the directory by their sequence. -/
structure PatchOutput (directory : Directory) (firmware : UInt16) (count : Nat)
    (found : WmtFirmwareResult) : Prop where
  counted : found.patches.count.toNat = count
  seen : found.patches.seen = 2 ^ count - 1
  present : ∀ entry ∈ directory.entries, ∀ content, IsPatch firmware entry content →
    ∀ i : Fin wmtMaxPatches, sequenceNibble content = i + 1 →
      (found.patches.records i).sequence.toNat = i + 1 ∧
      (found.patches.records i).address.bytes = 0 :: (content.drop 25).take 3 ∧
      (found.patches.records i).name = .fill wmtPatchNameSize entry.name.bytes ∧
      (found.versions i).bytes = content.take 15 ++ [0]
  absent : ∀ i : Fin wmtMaxPatches, count ≤ i →
    found.patches.records i = .zero ∧ found.versions i = .zero 16

section Found

variable {firmware : UInt16} {directory : Directory}

/-- Every patch of a directory that the search gets through contributes. -/
theorem IsPatch.contributes {Agree : AcceptedPatch → AcceptedPatch → Prop}
    (discoverable : Discoverable directory patchStem (inspectPatch firmware) Agree)
    {entry : Entry} (member : entry ∈ directory.entries) {content : List UInt8}
    (isPatch : IsPatch firmware entry content) :
    ∃ inRange : NibblesInRange content, inspectPatch firmware entry.name content =
      .ok (some ⟨entry.name, content, inRange⟩) := by
  obtain ⟨content', regular, examined⟩ := discoverable.readable entry member isPatch.named
  obtain rfl := isPatch.content_unique regular
  obtain ⟨size, within⟩ := inspectPatch_isOk_iff.mp examined
  exact ⟨within isPatch.matching,
    inspectPatch_eq_some_iff.mpr ⟨rfl, rfl, size, isPatch.matching⟩⟩

/-- A contribution is a patch of the directory. -/
theorem contributes_patch_iff {patch : AcceptedPatch} :
    Contributes directory patchStem (inspectPatch firmware) patch ↔
      ∃ entry ∈ directory.entries, IsPatch firmware entry patch.content ∧
        wmtPatchHeaderSize ≤ patch.content.length ∧ patch.name = entry.name := by
  simp only [Contributes, inspectPatch_eq_some_iff]
  constructor
  · rintro ⟨entry, member, content, candidate, name, rfl, size, matching⟩
    exact ⟨entry, member, ⟨candidate, matching⟩, size, name⟩
  · rintro ⟨entry, member, isPatch, size, name⟩
    exact ⟨entry, member, _, isPatch.toIsCandidate, name, rfl, size, isPatch.matching⟩

/-- A complete set comes from a complete directory. -/
theorem patchDirectory_of_complete
    (discoverable : Discoverable directory patchStem (inspectPatch firmware) AcceptedPatch.Agree)
    {contributed : List AcceptedPatch} {found : WmtFirmwareResult}
    (shown : ShowsPatches contributed found)
    (mem_iff : ∀ patch, patch ∈ contributed ↔
      Contributes directory patchStem (inspectPatch firmware) patch)
    (complete : wmtPatchSetComplete found.patches = .ok ()) :
    PatchDirectory directory firmware found.patches.count.toNat := by
  obtain ⟨nonempty, bounded, full⟩ := wmtPatchSetComplete_eq_ok_iff.mp complete
  constructor
  · intro entry member named
    obtain ⟨content, regular, examined⟩ := discoverable.readable entry member named
    exact ⟨content, regular, (inspectPatch_isOk_iff.mp examined).1⟩
  · exact ⟨nonempty, bounded⟩
  · intro entry member content isPatch
    obtain ⟨inRange, looked⟩ := isPatch.contributes discoverable member
    have counted := shown.count _
      ((mem_iff _).mpr ⟨entry, member, content, isPatch.toIsCandidate, looked⟩)
    exact ⟨counted.symm, inRange.1, counted ▸ inRange.2.1⟩
  · intro sequence first last
    have seen : found.patches.seen.testBit (sequence - 1) = true := by
      rw [full, decide_eq_true_eq]
      omega
    rw [shown.seen, Nat.sub_add_cancel first] at seen
    obtain ⟨patch, contributes, position⟩ := seen
    obtain ⟨entry, member, isPatch, -⟩ := contributes_patch_iff.mp ((mem_iff patch).mp contributes)
    refine ⟨entry, ⟨member, patch.content, isPatch, position⟩, ?_⟩
    rintro other ⟨otherMember, content, otherPatch, otherPosition⟩
    by_contra different
    obtain ⟨_, looked⟩ := isPatch.contributes discoverable member
    obtain ⟨_, otherLooked⟩ := otherPatch.contributes discoverable otherMember
    have agree := discoverable.agree other otherMember entry member different content patch.content
      otherPatch.toIsCandidate isPatch.toIsCandidate _ _ otherLooked looked
    exact agree.2 (otherPosition.trans position.symm)

namespace PatchDirectory

variable {count : Nat}

/-- The search gets through a complete directory. -/
theorem discoverable (wellFormed : PatchDirectory directory firmware count) :
    Discoverable directory patchStem (inspectPatch firmware) AcceptedPatch.Agree := by
  constructor
  · intro entry member named
    obtain ⟨content, regular, size⟩ := wellFormed.regular entry member named
    refine ⟨content, regular, inspectPatch_isOk_iff.mpr ⟨size, fun matching => ?_⟩⟩
    obtain ⟨counted, first, last⟩ :=
      wellFormed.nibbles entry member content ⟨⟨named, regular⟩, matching⟩
    exact ⟨first, counted ▸ last, counted ▸ wellFormed.bounds.2⟩
  · intro entry member other otherMember different content content' candidate candidate' patch
      patch' looked looked'
    obtain ⟨-, rfl, -, matching⟩ := inspectPatch_eq_some_iff.mp looked
    obtain ⟨-, rfl, -, matching'⟩ := inspectPatch_eq_some_iff.mp looked'
    have isPatch : IsPatch firmware entry patch.content := ⟨candidate, matching⟩
    have otherPatch : IsPatch firmware other patch'.content := ⟨candidate', matching'⟩
    obtain ⟨counted, first, last⟩ := wellFormed.nibbles entry member _ isPatch
    obtain ⟨otherCounted, -⟩ := wellFormed.nibbles other otherMember _ otherPatch
    refine ⟨counted.trans otherCounted.symm, fun same => different ?_⟩
    exact (wellFormed.sequences _ first last).unique
      ⟨member, _, isPatch, rfl⟩ ⟨otherMember, _, otherPatch, same.symm⟩

/-- The set found in a complete directory. -/
theorem complete (wellFormed : PatchDirectory directory firmware count)
    {contributed : List AcceptedPatch} {found : WmtFirmwareResult}
    (shown : ShowsPatches contributed found)
    (mem_iff : ∀ patch, patch ∈ contributed ↔
      Contributes directory patchStem (inspectPatch firmware) patch) :
    wmtPatchSetComplete found.patches = .ok () ∧ PatchOutput directory firmware count found := by
  have mem_of_isPatch : ∀ entry ∈ directory.entries, ∀ content, IsPatch firmware entry content →
      ∃ inRange : NibblesInRange content, ⟨entry.name, content, inRange⟩ ∈ contributed := by
    intro entry member content isPatch
    obtain ⟨inRange, looked⟩ := isPatch.contributes wellFormed.discoverable member
    exact ⟨inRange, (mem_iff _).mpr ⟨entry, member, content, isPatch.toIsCandidate, looked⟩⟩
  have mem_of_sequence : ∀ sequence, 1 ≤ sequence → sequence ≤ count →
      ∃ patch ∈ contributed, sequenceNibble patch.content = sequence := by
    intro sequence first last
    obtain ⟨entry, ⟨member, content, isPatch, position⟩, -⟩ :=
      wellFormed.sequences sequence first last
    obtain ⟨inRange, contributes⟩ := mem_of_isPatch entry member content isPatch
    exact ⟨_, contributes, position⟩
  have nibbles : ∀ patch ∈ contributed, countNibble patch.content = count ∧
      1 ≤ sequenceNibble patch.content ∧ sequenceNibble patch.content ≤ count := by
    intro patch contributes
    obtain ⟨entry, member, isPatch, -⟩ := contributes_patch_iff.mp ((mem_iff patch).mp contributes)
    exact wellFormed.nibbles entry member _ isPatch
  have counted : found.patches.count.toNat = count := by
    obtain ⟨patch, contributes, -⟩ := mem_of_sequence 1 le_rfl wellFormed.bounds.1
    exact (shown.count patch contributes).trans (nibbles patch contributes).1
  have full : ∀ i, found.patches.seen.testBit i = decide (i < count) := by
    intro i
    rw [Bool.eq_iff_iff, shown.seen, decide_eq_true_eq]
    constructor
    · rintro ⟨patch, contributes, position⟩
      have := (nibbles patch contributes).2.2
      omega
    · intro below
      exact mem_of_sequence (i + 1) (by omega) (by omega)
  constructor
  · rw [wmtPatchSetComplete_eq_ok_iff, counted]
    exact ⟨wellFormed.bounds.1, wellFormed.bounds.2, full⟩
  constructor
  · exact counted
  · rw [← Nat.one_shiftLeft]
    exact (BitSet.eq_full_iff _ _).mpr full
  · intro entry member content isPatch i position
    obtain ⟨inRange, contributes⟩ := mem_of_isPatch entry member content isPatch
    obtain ⟨record, version⟩ := shown.present _ contributes i position
    obtain ⟨content', regular, size⟩ := wellFormed.regular entry member isPatch.named
    obtain rfl := isPatch.content_unique regular
    have versionLength : (content.take 15).length = 15 := by
      rw [List.length_take]
      omega
    rw [record, version]
    refine ⟨(toNat_sequence _ _).trans position, bytes_address (by omega), rfl, ?_⟩
    rw [patchVersion, Buffer.bytes_fill (versionLength.le.trans (by decide)), versionLength]
    rfl
  · intro i beyond
    apply shown.absent
    intro patch contributes position
    have := (nibbles patch contributes).2.2
    omega

/-- A directory has one complete set. -/
theorem count_unique {count' : Nat} (first : PatchDirectory directory firmware count)
    (second : PatchDirectory directory firmware count') : count = count' := by
  obtain ⟨entry, ⟨member, content, isPatch, -⟩, -⟩ := first.sequences 1 le_rfl first.bounds.1
  exact (first.nibbles entry member content isPatch).1.symm.trans
    (second.nibbles entry member content isPatch).1

end PatchDirectory

/-- The directory leaves nothing of the result open. -/
theorem PatchOutput.unique {count : Nat} {first second : WmtFirmwareResult}
    (wellFormed : PatchDirectory directory firmware count)
    (firstOutput : PatchOutput directory firmware count first)
    (secondOutput : PatchOutput directory firmware count second) : first = second := by
  have slots : ∀ i, first.patches.records i = second.patches.records i ∧
      first.versions i = second.versions i := by
    intro i
    by_cases inside : (i : Nat) < count
    · obtain ⟨entry, ⟨member, content, isPatch, position⟩, -⟩ :=
        wellFormed.sequences (i + 1) (by omega) (by omega)
      obtain ⟨sequence, address, name, version⟩ :=
        firstOutput.present entry member content isPatch i position
      obtain ⟨sequence', address', name', version'⟩ :=
        secondOutput.present entry member content isPatch i position
      refine ⟨?_, Buffer.ext (version.trans version'.symm)⟩
      apply WmtPatchInfo.ext
      · exact UInt32.toNat_inj.mp (sequence.trans sequence'.symm)
      · exact Buffer.ext (address.trans address'.symm)
      · exact name.trans name'.symm
    · obtain ⟨record, version⟩ := firstOutput.absent i (Nat.not_lt.mp inside)
      obtain ⟨record', version'⟩ := secondOutput.absent i (Nat.not_lt.mp inside)
      exact ⟨record.trans record'.symm, version.trans version'.symm⟩
  apply WmtFirmwareResult.ext
  · apply WmtPatchSet.ext
    · exact UInt32.toNat_inj.mp (firstOutput.counted.trans secondOutput.counted.symm)
    · exact firstOutput.seen.trans secondOutput.seen.symm
    · exact funext fun i => (slots i).1
  · exact funext fun i => (slots i).2

/-- An undisturbed search either finds a complete directory and reports it, or fails and
leaves the output alone. -/
theorem wmtFirmwareSearch_cases {path : List UInt8} (nonempty : path ≠ []) {run : SearchRun}
    (undisturbed : run.Undisturbed) (lists : run.Lists directory) (previous : WmtFirmwareResult) :
    (∃ count found, PatchDirectory directory firmware count ∧
        PatchOutput directory firmware count found ∧
        wmtFirmwareSearch (some path) firmware run (some previous) = (.ok (), some found)) ∨
      ((∀ count, ¬PatchDirectory directory firmware count) ∧
        ∃ errno, wmtFirmwareSearch (some path) firmware run (some previous) =
          (.error errno, some previous)) := by
  have start : ShowsPatches [] .zero := by
    constructor <;> simp [WmtFirmwareResult.zero]
  rw [wmtFirmwareSearch, if_neg nonempty]
  rcases searchDirectory_cases (readPatch_consumes firmware) (patchCollector firmware)
      AcceptedPatch.Agree.symm start undisturbed lists with
    ⟨discoverable, found, contributed, search, shown, -, mem_iff⟩ | ⟨stuck, errno, search⟩
  · rw [search]
    dsimp only
    cases complete : wmtPatchSetComplete found.patches with
    | ok _ =>
        have wellFormed := patchDirectory_of_complete discoverable shown mem_iff complete
        exact .inl ⟨_, found, wellFormed, (wellFormed.complete shown mem_iff).2, rfl⟩
    | error errno =>
        right
        refine ⟨fun count wellFormed => ?_, errno, rfl⟩
        rw [(wellFormed.complete shown mem_iff).1] at complete
        cases complete
  · rw [search]
    exact .inr ⟨fun count wellFormed => stuck wellFormed.discoverable, errno, rfl⟩

end Found

/-- Discovery of normal patches depends on the contents of the directory only.  However
`readdir` orders the entries and `read` splits or interrupts the transfers, the search
succeeds exactly on a complete directory and then reports it; two runs leave the same
output.  A failing run, whatever has failed, leaves the output alone. -/
theorem patch_discovery (path : List UInt8) (nonempty : path ≠ []) (firmware : UInt16)
    (directory : Directory) (previous : WmtFirmwareResult) :
    (∀ run : SearchRun, run.Undisturbed → run.Lists directory →
      ((wmtFirmwareSearch (some path) firmware run (some previous)).1 = .ok () ↔
        ∃ count, PatchDirectory directory firmware count) ∧
      ∀ count, PatchDirectory directory firmware count →
        ∃ found, (wmtFirmwareSearch (some path) firmware run (some previous)).2 = some found ∧
          PatchOutput directory firmware count found) ∧
    (∀ first second : SearchRun, first.Undisturbed → first.Lists directory →
      second.Undisturbed → second.Lists directory →
      ((wmtFirmwareSearch (some path) firmware first (some previous)).1 = .ok () ↔
        (wmtFirmwareSearch (some path) firmware second (some previous)).1 = .ok ()) ∧
      (wmtFirmwareSearch (some path) firmware first (some previous)).2 =
        (wmtFirmwareSearch (some path) firmware second (some previous)).2) ∧
    ∀ run : SearchRun,
      (wmtFirmwareSearch (some path) firmware run (some previous)).1 ≠ .ok () →
        (wmtFirmwareSearch (some path) firmware run (some previous)).2 = some previous := by
  refine ⟨fun run undisturbed lists => ?_, ?_, fun run failed => ?_⟩
  · rcases wmtFirmwareSearch_cases nonempty undisturbed lists previous with
      ⟨count, found, wellFormed, output, search⟩ | ⟨incomplete, errno, search⟩
    · rw [search]
      refine ⟨⟨fun _ => ⟨count, wellFormed⟩, fun _ => rfl⟩, fun count' wellFormed' => ?_⟩
      obtain rfl := wellFormed.count_unique wellFormed'
      exact ⟨found, rfl, output⟩
    · rw [search]
      refine ⟨⟨?_, ?_⟩, fun count wellFormed => absurd wellFormed (incomplete count)⟩
      · rintro ⟨⟩
      · rintro ⟨count, wellFormed⟩
        exact absurd wellFormed (incomplete count)
  · intro first second firstCalm firstLists secondCalm secondLists
    rcases wmtFirmwareSearch_cases nonempty firstCalm firstLists previous with
      ⟨count, found, wellFormed, output, search⟩ | ⟨incomplete, errno, search⟩ <;>
    rcases wmtFirmwareSearch_cases nonempty secondCalm secondLists previous with
      ⟨count', found', wellFormed', output', search'⟩ | ⟨incomplete', errno', search'⟩
    · obtain rfl := wellFormed.count_unique wellFormed'
      rw [search, search', PatchOutput.unique wellFormed output output']
      exact ⟨Iff.rfl, rfl⟩
    · exact absurd wellFormed (incomplete' count)
    · exact absurd wellFormed' (incomplete count')
    · rw [search, search']
      refine ⟨⟨?_, ?_⟩, rfl⟩
      · rintro ⟨⟩
      · rintro ⟨⟩
  · rw [wmtFirmwareSearch, if_neg nonempty] at failed ⊢
    cases found : searchDirectory patchStem (readPatch firmware) run .zero with
    | error errno => rfl
    | ok result =>
        rw [found] at failed
        dsimp only at failed ⊢
        cases complete : wmtPatchSetComplete result.patches with
        | error errno => rfl
        | ok _ =>
            rw [complete] at failed
            exact absurd rfl failed

/-- Two patches of firmware 0x8a00, the second one first, with a patch of another firmware
and something else between them. -/
def twoPatches : Directory where
  entries :=
    [{ name := ⟨ascii "ROMv2_lm_patch_1_1_hdr.bin", by decide, by decide, by decide, by decide⟩
       node := .regular (ascii "20180509150240a" ++ List.replicate 9 0 ++ [0x22, 0, 6, 0]) },
     { name := ⟨ascii "ROMv2_lm_patch_2_0_hdr.bin", by decide, by decide, by decide, by decide⟩
       node := .regular (List.replicate 23 0 ++ [0x8b, 0x11, 0, 6, 0]) },
     { name := ⟨ascii "README", by decide, by decide, by decide, by decide⟩
       node := .special },
     { name := ⟨ascii "ROMv2_lm_patch_1_0_hdr.bin", by decide, by decide, by decide, by decide⟩
       node := .regular (ascii "20180509150101a" ++ List.replicate 9 0 ++ [0x21, 0, 9, 0xf0]) }]
  distinct := by decide

/-- Both are found in either order, with reads that are split and interrupted. -/
theorem patch_discovery_twoPatches :
    ∃ found, PatchOutput twoPatches 0x8a00 2 found ∧
      (wmtFirmwareSearch (some (ascii "/vendor/firmware/")) 0x8a00
        (.ofEntries [.failed .eintr, .upTo 9] twoPatches.entries) (some .zero)).2 = some found ∧
      (wmtFirmwareSearch (some (ascii "/vendor/firmware/")) 0x8a00
        (.ofEntries [.upTo 4] twoPatches.entries.reverse) (some .zero)).2 = some found := by
  have discovery := patch_discovery (ascii "/vendor/firmware/") (by decide) 0x8a00 twoPatches .zero
  have calm := SearchRun.ofEntries_undisturbed [.failed .eintr, .upTo 9] (by simp)
    twoPatches.entries
  have lists := SearchRun.ofEntries_lists [.failed .eintr, .upTo 9] (.refl twoPatches.entries)
  obtain ⟨iff, output⟩ := discovery.1 _ calm lists
  obtain ⟨count, complete⟩ := iff.mp (by decide +kernel)
  obtain ⟨found, result, shown⟩ := output count complete
  have counted : (wmtFirmwareSearch (some (ascii "/vendor/firmware/")) 0x8a00
      (.ofEntries [.failed .eintr, .upTo 9] twoPatches.entries) (some .zero)).2.map
        (fun found => found.patches.count) = some 2 := by decide +kernel
  rw [result] at counted
  obtain rfl : count = 2 := by
    rw [← shown.counted]
    exact congrArg UInt32.toNat (Option.some.inj counted)
  have same := (discovery.2.1 _ _ calm lists
    (SearchRun.ofEntries_undisturbed [.upTo 4] (by simp) _)
    (SearchRun.ofEntries_lists _ (List.reverse_perm twoPatches.entries))).2
  exact ⟨found, shown, result, same.symm.trans result⟩

end K50sv1.WmtLauncher.Firmware
