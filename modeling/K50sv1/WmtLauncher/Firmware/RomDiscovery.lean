import Mathlib.Data.Finset.Card
import K50sv1.WmtLauncher.Firmware.Rom

/-!
# ROM patches and the directory

The search succeeds on exactly the directories whose ROM patches are well formed, have
distinct types and agree on the versions.  The set it then reports is determined by the
directory, up to the bytes behind the terminators of the two versions.
-/

namespace K50sv1.WmtLauncher.Firmware

open K50sv1.Data
open K50sv1.Data.Bytes

/-! ## What the directory says -/

/-- The entry is a ROM patch for this firmware. -/
structure IsRom (firmware : UInt16) (entry : Entry) (content : List UInt8) : Prop extends
    IsCandidate romStem entry content where
  matching : content.getD 23 0 = firmware.toUInt8

/-- The C string formed by the first 15 bytes. -/
def firstText (content : List UInt8) : List UInt8 :=
  (content.take 15).takeWhile (· ≠ 0)

/-- The directory holds ROM patches that are well formed and agree with each other. -/
structure RomDirectory (directory : Directory) (firmware : UInt16) : Prop where
  regular : ∀ entry ∈ directory.entries, romStem <+: entry.name.bytes →
    ∃ content, entry.node = .regular content ∧ 32 ≤ content.length
  metadata : ∀ entry ∈ directory.entries, ∀ content, IsRom firmware entry content →
    16 ≤ (content.getD 27 0).toNat ∧ romType content ≤ 4
  types : ∀ entry ∈ directory.entries, ∀ content, IsRom firmware entry content →
    ∀ other ∈ directory.entries, ∀ content', IsRom firmware other content' →
      romType content = romType content' → entry = other
  wifi : ∀ entry ∈ directory.entries, ∀ content, IsRom firmware entry content →
    ∀ other ∈ directory.entries, ∀ content', IsRom firmware other content' →
      ascii "ram_wifi" <:+: entry.name.bytes → ascii "ram_wifi" <:+: other.name.bytes →
        firstText content = firstText content'
  markers : ∀ entry ∈ directory.entries, ∀ content, IsRom firmware entry content →
    ascii "ram_bt" <:+: entry.name.bytes →
      content.length ≤ 1024 * 1024 ∧ MarkersWellFormed content
  bt : ∀ entry ∈ directory.entries, ∀ content, IsRom firmware entry content →
    ∀ other ∈ directory.entries, ∀ content', IsRom firmware other content' →
      ascii "ram_bt" <:+: entry.name.bytes → ascii "ram_bt" <:+: other.name.bytes →
        ∀ version version', btVersion content = .ok (some version) →
          btVersion content' = .ok (some version') → version.cString = version'.cString

/-- The set lists the ROM patches of the directory by their type. -/
structure RomOutput (directory : Directory) (firmware : UInt16) (found : WmtRomSet) : Prop where
  seen : ∀ type, found.seen.testBit type = true ↔
    ∃ entry ∈ directory.entries, ∃ content, IsRom firmware entry content ∧ romType content = type
  count : found.count.toNat = {type ∈ Finset.range 5 | found.seen.testBit type = true}.card
  present : ∀ entry ∈ directory.entries, ∀ content, IsRom firmware entry content →
    ∀ i : Fin wmtRomTypes, romType content = i →
      (found.records i).type.toNat = i ∧
      (found.records i).address.bytes = 0 :: (content.drop 25).take 3 ∧
      (found.records i).name = .fill wmtPatchNameSize entry.name.bytes
  absent : ∀ i : Fin wmtRomTypes, found.seen.testBit i = false → found.records i = .zero
  hasWifi : found.wifi.present = true ↔
    ∃ entry ∈ directory.entries, ∃ content, IsRom firmware entry content ∧
      ascii "ram_wifi" <:+: entry.name.bytes
  wifi : ∀ entry ∈ directory.entries, ∀ content, IsRom firmware entry content →
    ascii "ram_wifi" <:+: entry.name.bytes → found.wifi.text.cString = firstText content
  noWifi : found.wifi.present = false → found.wifi.text = .zero _
  hasBt : found.bt.present = true ↔
    ∃ entry ∈ directory.entries, ∃ content, IsRom firmware entry content ∧
      ascii "ram_bt" <:+: entry.name.bytes ∧ ∃ version, btVersion content = .ok (some version)
  bt : ∀ entry ∈ directory.entries, ∀ content, IsRom firmware entry content →
    ascii "ram_bt" <:+: entry.name.bytes → ∀ version, btVersion content = .ok (some version) →
      found.bt.text.cString = version.cString
  noBt : found.bt.present = false → found.bt.text = .zero _

theorem EntryName.mentions_iff {name : EntryName} {text : List UInt8} :
    name.mentions text = true ↔ text <:+: name.bytes :=
  Search.find_isSome_iff

theorem romBt_isOk_iff {name : EntryName} {content : List UInt8} :
    (∃ bt, romBt name content = .ok bt) ↔
      (ascii "ram_bt" <:+: name.bytes →
        content.length ≤ wmtBtVersionFileLimit ∧ MarkersWellFormed content) := by
  rw [romBt, ← EntryName.mentions_iff]
  by_cases mentioned : name.mentions (ascii "ram_bt") = true
  · rw [if_pos mentioned, btOf]
    simp only [mentioned, true_implies]
    by_cases large : wmtBtVersionFileLimit < content.length
    · rw [if_pos large]
      constructor
      · rintro ⟨bt, ⟨⟩⟩
      · rintro ⟨small, -⟩
        exact absurd small (Nat.not_le.mpr large)
    · rw [if_neg large, btVersion_isOk_iff]
      exact ⟨fun markers => ⟨Nat.not_lt.mp large, markers⟩, And.right⟩
  · rw [if_neg mentioned]
    exact ⟨fun _ mention => absurd mention mentioned, fun _ => ⟨none, rfl⟩⟩

namespace AcceptedRom

variable {rom : AcceptedRom}

theorem mem_wifi_iff {text : Buffer 16} :
    text ∈ rom.wifi ↔ ascii "ram_wifi" <:+: rom.name.bytes ∧ text = patchVersion rom.content := by
  rw [wifi, romWifi, ← EntryName.mentions_iff]
  split_ifs with mentioned
  · simp [mentioned, eq_comm]
  · simp [mentioned]

theorem mem_bt_iff {text : Buffer wmtBtVersionSize} :
    text ∈ rom.bt ↔
      ascii "ram_bt" <:+: rom.name.bytes ∧ btVersion rom.content = .ok (some text) := by
  have bt_eq := rom.bt_eq
  rw [← EntryName.mentions_iff, Option.mem_def]
  by_cases mentioned : rom.name.mentions (ascii "ram_bt") = true
  · have small := (romBt_isOk_iff.mp ⟨_, bt_eq⟩ (EntryName.mentions_iff.mp mentioned)).1
    rw [romBt, if_pos mentioned, btOf, if_neg (Nat.not_lt.mpr small)] at bt_eq
    simp [mentioned, bt_eq]
  · rw [romBt, if_neg mentioned] at bt_eq
    simp [mentioned, ← Except.ok.inj bt_eq]

end AcceptedRom

theorem cString_patchVersion (content : List UInt8) :
    (patchVersion content).cString = firstText content :=
  Buffer.cString_fill_eq (by rw [List.length_take]; omega)

section Found

variable {firmware : UInt16} {directory : Directory}

/-- A contribution is a ROM patch of the directory. -/
theorem contributes_rom_iff {rom : AcceptedRom} :
    Contributes directory romStem (inspectRom firmware) rom ↔
      ∃ entry ∈ directory.entries, IsRom firmware entry rom.content ∧
        wmtRomHeaderSize ≤ rom.content.length ∧ rom.name = entry.name := by
  simp only [Contributes, inspectRom_eq_some_iff]
  constructor
  · rintro ⟨entry, member, content, candidate, name, rfl, size, matching⟩
    exact ⟨entry, member, ⟨candidate, matching⟩, size, name⟩
  · rintro ⟨entry, member, isRom, size, name⟩
    exact ⟨entry, member, _, isRom.toIsCandidate, name, rfl, size, isRom.matching⟩

/-- Every ROM patch of a directory that the search gets through contributes. -/
theorem IsRom.contributes {Agree : AcceptedRom → AcceptedRom → Prop}
    (discoverable : Discoverable directory romStem (inspectRom firmware) Agree)
    {entry : Entry} (member : entry ∈ directory.entries) {content : List UInt8}
    (isRom : IsRom firmware entry content) :
    ∃ rom : AcceptedRom, rom.name = entry.name ∧ rom.content = content ∧
      inspectRom firmware entry.name content = .ok (some rom) := by
  obtain ⟨content', regular, examined⟩ := discoverable.readable entry member isRom.named
  obtain rfl := isRom.content_unique regular
  obtain ⟨size, readable⟩ := inspectRom_isOk_iff.mp examined
  obtain ⟨metadata, bt, bt_eq⟩ := readable isRom.matching
  exact ⟨⟨entry.name, content, metadata, bt, bt_eq⟩, rfl, rfl,
    inspectRom_eq_some_iff.mpr ⟨rfl, rfl, size, isRom.matching⟩⟩

/-- What different files contribute agrees. -/
theorem Discoverable.agree_of_ne
    (discoverable : Discoverable directory romStem (inspectRom firmware) AcceptedRom.Agree)
    {entry other : Entry} (member : entry ∈ directory.entries)
    (otherMember : other ∈ directory.entries) {content content' : List UInt8}
    (isRom : IsRom firmware entry content) (otherRom : IsRom firmware other content')
    (different : entry ≠ other) :
    ∃ rom rom' : AcceptedRom, (rom.name = entry.name ∧ rom.content = content) ∧
      (rom'.name = other.name ∧ rom'.content = content') ∧ rom.Agree rom' := by
  obtain ⟨rom, name, same, looked⟩ := isRom.contributes discoverable member
  obtain ⟨rom', name', same', looked'⟩ := otherRom.contributes discoverable otherMember
  exact ⟨rom, rom', ⟨name, same⟩, ⟨name', same'⟩,
    discoverable.agree entry member other otherMember different content content'
      isRom.toIsCandidate otherRom.toIsCandidate rom rom' looked looked'⟩

/-- The search gets through only if the directory is well formed. -/
theorem romDirectory_of_discoverable
    (discoverable : Discoverable directory romStem (inspectRom firmware) AcceptedRom.Agree) :
    RomDirectory directory firmware := by
  have readable : ∀ entry ∈ directory.entries, ∀ content, IsRom firmware entry content →
      RomMetadata content ∧ ∃ bt, romBt entry.name content = .ok bt := by
    intro entry member content isRom
    obtain ⟨content', regular, examined⟩ := discoverable.readable entry member isRom.named
    obtain rfl := isRom.content_unique regular
    exact (inspectRom_isOk_iff.mp examined).2 isRom.matching
  constructor
  case regular =>
    intro entry member named
    obtain ⟨content, regular, examined⟩ := discoverable.readable entry member named
    exact ⟨content, regular, (inspectRom_isOk_iff.mp examined).1⟩
  case metadata =>
    intro entry member content isRom
    obtain ⟨⟨nibble, type⟩, -⟩ := readable entry member content isRom
    exact ⟨nibble, Nat.le_of_lt_succ type⟩
  case types =>
    intro entry member content isRom other otherMember content' otherRom sameType
    by_contra different
    obtain ⟨rom, rom', ⟨-, rfl⟩, ⟨-, rfl⟩, agree⟩ :=
      discoverable.agree_of_ne member otherMember isRom otherRom different
    exact agree.types sameType
  case wifi =>
    intro entry member content isRom other otherMember content' otherRom mentioned mentioned'
    by_cases same : entry = other
    · rw [isRom.content_unique (same ▸ otherRom.regular)]
    obtain ⟨rom, rom', ⟨name, rfl⟩, ⟨name', rfl⟩, agree⟩ :=
      discoverable.agree_of_ne member otherMember isRom otherRom same
    rw [← cString_patchVersion, ← cString_patchVersion]
    exact agree.wifi _ (AcceptedRom.mem_wifi_iff.mpr ⟨name ▸ mentioned, rfl⟩) _
      (AcceptedRom.mem_wifi_iff.mpr ⟨name' ▸ mentioned', rfl⟩)
  case markers =>
    intro entry member content isRom mentioned
    exact romBt_isOk_iff.mp (readable entry member content isRom).2 mentioned
  case bt =>
    intro entry member content isRom other otherMember content' otherRom mentioned mentioned'
      version version' extracted extracted'
    by_cases same : entry = other
    · rw [isRom.content_unique (same ▸ otherRom.regular), extracted'] at extracted
      rw [Option.some.inj (Except.ok.inj extracted)]
    obtain ⟨rom, rom', ⟨name, rfl⟩, ⟨name', rfl⟩, agree⟩ :=
      discoverable.agree_of_ne member otherMember isRom otherRom same
    exact agree.bt _ (AcceptedRom.mem_bt_iff.mpr ⟨name ▸ mentioned, extracted⟩) _
      (AcceptedRom.mem_bt_iff.mpr ⟨name' ▸ mentioned', extracted'⟩)

/-- The search gets through every well-formed directory. -/
theorem RomDirectory.discoverable (wellFormed : RomDirectory directory firmware) :
    Discoverable directory romStem (inspectRom firmware) AcceptedRom.Agree := by
  constructor
  · intro entry member named
    obtain ⟨content, regular, size⟩ := wellFormed.regular entry member named
    refine ⟨content, regular, inspectRom_isOk_iff.mpr ⟨size, fun matching => ?_⟩⟩
    have isRom : IsRom firmware entry content := ⟨⟨named, regular⟩, matching⟩
    obtain ⟨nibble, type⟩ := wellFormed.metadata entry member content isRom
    exact ⟨⟨nibble, Nat.lt_succ_of_le type⟩,
      romBt_isOk_iff.mpr (wellFormed.markers entry member content isRom)⟩
  · intro entry member other otherMember different content content' candidate candidate' rom rom'
      looked looked'
    obtain ⟨name, rfl, -, matching⟩ := inspectRom_eq_some_iff.mp looked
    obtain ⟨name', rfl, -, matching'⟩ := inspectRom_eq_some_iff.mp looked'
    have isRom : IsRom firmware entry rom.content := ⟨candidate, matching⟩
    have otherRom : IsRom firmware other rom'.content := ⟨candidate', matching'⟩
    constructor
    · exact fun same => different
        (wellFormed.types entry member _ isRom other otherMember _ otherRom same)
    · intro text contributed text' contributed'
      obtain ⟨mentioned, rfl⟩ := AcceptedRom.mem_wifi_iff.mp contributed
      obtain ⟨mentioned', rfl⟩ := AcceptedRom.mem_wifi_iff.mp contributed'
      rw [cString_patchVersion, cString_patchVersion]
      exact wellFormed.wifi entry member _ isRom other otherMember _ otherRom
        (name ▸ mentioned) (name' ▸ mentioned')
    · intro text contributed text' contributed'
      obtain ⟨mentioned, extracted⟩ := AcceptedRom.mem_bt_iff.mp contributed
      obtain ⟨mentioned', extracted'⟩ := AcceptedRom.mem_bt_iff.mp contributed'
      exact wellFormed.bt entry member _ isRom other otherMember _ otherRom
        (name ▸ mentioned) (name' ▸ mentioned') text text' extracted extracted'

/-- The flag of a slot says that some file has contributed a version. -/
theorem ShowsVersion.flag_iff {size : Nat} {contributed : List AcceptedRom}
    {version : AcceptedRom → Option (Buffer size)} {slot : VersionSlot size}
    (shown : ShowsVersion (contributed.filterMap version) slot) :
    slot.present = true ↔ ∃ rom ∈ contributed, ∃ text, text ∈ version rom := by
  rw [shown.flag]
  constructor
  · intro nonempty
    obtain ⟨text, member⟩ := List.exists_mem_of_ne_nil _ nonempty
    obtain ⟨rom, contributes, offered⟩ := List.mem_filterMap.mp member
    exact ⟨rom, contributes, text, offered⟩
  · rintro ⟨rom, contributes, text, offered⟩
    exact List.ne_nil_of_mem (List.mem_filterMap.mpr ⟨rom, contributes, offered⟩)

/-- As many types are marked as there are ROM patches. -/
theorem ShowsRoms.card_seen {contributed : List AcceptedRom} {found : WmtRomSet}
    (shown : ShowsRoms contributed found) (agree : contributed.Pairwise AcceptedRom.Agree) :
    {type ∈ Finset.range 5 | found.seen.testBit type = true}.card = contributed.length := by
  have distinct : (contributed.map fun rom => romType rom.content).Nodup := by
    rw [List.Nodup, List.pairwise_map]
    exact agree.imp fun both => both.types
  have types : {type ∈ Finset.range 5 | found.seen.testBit type = true} =
      (contributed.map fun rom => romType rom.content).toFinset := by
    ext type
    rw [Finset.mem_filter, Finset.mem_range, shown.seen, List.mem_toFinset, List.mem_map]
    constructor
    · exact And.right
    · rintro ⟨rom, member, rfl⟩
      exact ⟨rom.metadata.2, rom, member, rfl⟩
  rw [types, List.toFinset_card_of_nodup distinct, List.length_map]

/-- The set found in a directory. -/
theorem romOutput_of_shown
    (discoverable : Discoverable directory romStem (inspectRom firmware) AcceptedRom.Agree)
    {contributed : List AcceptedRom} {found : WmtRomSet} (shown : ShowsRoms contributed found)
    (agree : contributed.Pairwise AcceptedRom.Agree)
    (mem_iff : ∀ rom, rom ∈ contributed ↔ Contributes directory romStem (inspectRom firmware) rom) :
    RomOutput directory firmware found := by
  have mem_of_isRom : ∀ entry ∈ directory.entries, ∀ content, IsRom firmware entry content →
      ∃ rom ∈ contributed, rom.name = entry.name ∧ rom.content = content := by
    intro entry member content isRom
    obtain ⟨rom, name, same, looked⟩ := isRom.contributes discoverable member
    exact ⟨rom, (mem_iff rom).mpr ⟨entry, member, content, isRom.toIsCandidate, looked⟩, name, same⟩
  have isRom_of_mem : ∀ rom ∈ contributed, ∃ entry ∈ directory.entries,
      IsRom firmware entry rom.content ∧ wmtRomHeaderSize ≤ rom.content.length ∧
        rom.name = entry.name :=
    fun rom contributes => contributes_rom_iff.mp ((mem_iff rom).mp contributes)
  constructor
  case seen =>
    intro type
    rw [shown.seen]
    constructor
    · rintro ⟨rom, contributes, position⟩
      obtain ⟨entry, member, isRom, -⟩ := isRom_of_mem rom contributes
      exact ⟨entry, member, _, isRom, position⟩
    · rintro ⟨entry, member, content, isRom, position⟩
      obtain ⟨rom, contributes, -, rfl⟩ := mem_of_isRom entry member content isRom
      exact ⟨rom, contributes, position⟩
  case count =>
    have few : contributed.length ≤ 5 := by
      rw [← shown.card_seen agree]
      exact (Finset.card_filter_le _ _).trans (Finset.card_range 5).le
    rw [shown.card_seen agree, shown.count, UInt32.toNat_ofNat_of_lt']
    exact Nat.lt_of_le_of_lt few (by decide)
  case present =>
    intro entry member content isRom i position
    obtain ⟨rom, contributes, name, rfl⟩ := mem_of_isRom entry member content isRom
    obtain ⟨-, -, -, size, -⟩ := isRom_of_mem rom contributes
    rw [wmtRomHeaderSize] at size
    rw [shown.present rom contributes i position, ← name]
    exact ⟨position, bytes_address (by omega), rfl⟩
  case absent =>
    intro i unseen
    apply shown.absent
    intro rom contributes position
    have seen := (shown.seen i).mpr ⟨rom, contributes, position⟩
    rw [unseen] at seen
    cases seen
  case hasWifi =>
    rw [shown.wifi.flag_iff]
    simp only [AcceptedRom.mem_wifi_iff]
    constructor
    · rintro ⟨rom, contributes, text, mentioned, -⟩
      obtain ⟨entry, member, isRom, -, name⟩ := isRom_of_mem rom contributes
      exact ⟨entry, member, _, isRom, name ▸ mentioned⟩
    · rintro ⟨entry, member, content, isRom, mentioned⟩
      obtain ⟨rom, contributes, name, -⟩ := mem_of_isRom entry member content isRom
      exact ⟨rom, contributes, _, name ▸ mentioned, rfl⟩
  case wifi =>
    intro entry member content isRom mentioned
    obtain ⟨rom, contributes, name, rfl⟩ := mem_of_isRom entry member content isRom
    rw [← cString_patchVersion]
    apply shown.wifi.text
    exact List.mem_filterMap.mpr
      ⟨rom, contributes, AcceptedRom.mem_wifi_iff.mpr ⟨name ▸ mentioned, rfl⟩⟩
  case noWifi => exact shown.wifi.text_of_absent
  case hasBt =>
    rw [shown.bt.flag_iff]
    simp only [AcceptedRom.mem_bt_iff]
    constructor
    · rintro ⟨rom, contributes, text, mentioned, extracted⟩
      obtain ⟨entry, member, isRom, -, name⟩ := isRom_of_mem rom contributes
      exact ⟨entry, member, _, isRom, name ▸ mentioned, text, extracted⟩
    · rintro ⟨entry, member, content, isRom, mentioned, text, extracted⟩
      obtain ⟨rom, contributes, name, rfl⟩ := mem_of_isRom entry member content isRom
      exact ⟨rom, contributes, text, name ▸ mentioned, extracted⟩
  case bt =>
    intro entry member content isRom mentioned version extracted
    obtain ⟨rom, contributes, name, rfl⟩ := mem_of_isRom entry member content isRom
    apply shown.bt.text
    exact List.mem_filterMap.mpr
      ⟨rom, contributes, AcceptedRom.mem_bt_iff.mpr ⟨name ▸ mentioned, extracted⟩⟩
  case noBt => exact shown.bt.text_of_absent

/-- Two sets that differ at most in the bytes behind the terminators of the versions. -/
structure SameRoms (first second : WmtRomSet) : Prop where
  count : first.count = second.count
  seen : first.seen = second.seen
  records : first.records = second.records
  hasWifi : first.wifi.present = second.wifi.present
  wifi : first.wifi.text.cString = second.wifi.text.cString
  hasBt : first.bt.present = second.bt.present
  bt : first.bt.text.cString = second.bt.text.cString

/-- The directory determines the set up to those bytes. -/
theorem RomOutput.same {first second : WmtRomSet}
    (firstOutput : RomOutput directory firmware first)
    (secondOutput : RomOutput directory firmware second) : SameRoms first second := by
  have seen : first.seen = second.seen := by
    apply Nat.eq_of_testBit_eq
    intro type
    rw [Bool.eq_iff_iff, firstOutput.seen, secondOutput.seen]
  have hasWifi : first.wifi.present = second.wifi.present := by
    rw [Bool.eq_iff_iff, firstOutput.hasWifi, secondOutput.hasWifi]
  have hasBt : first.bt.present = second.bt.present := by
    rw [Bool.eq_iff_iff, firstOutput.hasBt, secondOutput.hasBt]
  constructor
  · apply UInt32.toNat_inj.mp
    rw [firstOutput.count, secondOutput.count, seen]
  · exact seen
  · funext i
    by_cases marked : first.seen.testBit i = true
    · obtain ⟨entry, member, content, isRom, position⟩ := (firstOutput.seen i).mp marked
      obtain ⟨type, address, name⟩ :=
        firstOutput.present entry member content isRom i position
      obtain ⟨type', address', name'⟩ :=
        secondOutput.present entry member content isRom i position
      apply WmtRomInfo.ext
      · exact UInt32.toNat_inj.mp (type.trans type'.symm)
      · exact Buffer.ext (address.trans address'.symm)
      · exact name.trans name'.symm
    · rw [Bool.not_eq_true] at marked
      rw [firstOutput.absent i marked, secondOutput.absent i (seen ▸ marked)]
  · exact hasWifi
  · by_cases present : first.wifi.present = true
    · obtain ⟨entry, member, content, isRom, mentioned⟩ := firstOutput.hasWifi.mp present
      rw [firstOutput.wifi entry member content isRom mentioned,
        secondOutput.wifi entry member content isRom mentioned]
    · rw [Bool.not_eq_true] at present
      rw [firstOutput.noWifi present, secondOutput.noWifi (hasWifi ▸ present)]
  · exact hasBt
  · by_cases present : first.bt.present = true
    · obtain ⟨entry, member, content, isRom, mentioned, version, extracted⟩ :=
        firstOutput.hasBt.mp present
      rw [firstOutput.bt entry member content isRom mentioned version extracted,
        secondOutput.bt entry member content isRom mentioned version extracted]
    · rw [Bool.not_eq_true] at present
      rw [firstOutput.noBt present, secondOutput.noBt (hasBt ▸ present)]

/-- An undisturbed search either finds a well-formed directory and reports it, or fails
and leaves the output alone. -/
theorem wmtRomSearch_cases {path : List UInt8} (nonempty : path ≠ []) {run : SearchRun}
    (undisturbed : run.Undisturbed) (lists : run.Lists directory) (previous : WmtRomSet) :
    (RomDirectory directory firmware ∧ ∃ found, RomOutput directory firmware found ∧
        wmtRomSearch (some path) firmware run (some previous) = (.ok (), some found)) ∨
      (¬RomDirectory directory firmware ∧
        ∃ errno, wmtRomSearch (some path) firmware run (some previous) =
          (.error errno, some previous)) := by
  have start : ShowsRoms [] .zero := by
    constructor
    case wifi => exact ⟨by simp [WmtRomSet.zero], by simp, fun _ => rfl⟩
    case bt => exact ⟨by simp [WmtRomSet.zero], by simp, fun _ => rfl⟩
    all_goals simp [WmtRomSet.zero]
  rw [wmtRomSearch, if_neg nonempty]
  rcases searchDirectory_cases (readRom_consumes firmware) (romCollector firmware)
      AcceptedRom.Agree.symm start undisturbed lists with
    ⟨discoverable, found, contributed, search, shown, agree, mem_iff⟩ | ⟨stuck, errno, search⟩
  · rw [search]
    exact .inl ⟨romDirectory_of_discoverable discoverable, found,
      romOutput_of_shown discoverable shown agree mem_iff, rfl⟩
  · rw [search]
    exact .inr ⟨fun wellFormed => stuck wellFormed.discoverable, errno, rfl⟩

end Found

/-- Discovery of ROM patches depends on the contents of the directory only.  However
`readdir` orders the entries and `read` splits or interrupts the transfers, the search
succeeds exactly on a well-formed directory and then reports it.  Two runs agree on
everything but the bytes behind the terminators of the versions.  A failing run,
whatever has failed, leaves the output alone. -/
theorem rom_discovery (path : List UInt8) (nonempty : path ≠ []) (firmware : UInt16)
    (directory : Directory) (previous : WmtRomSet) :
    (∀ run : SearchRun, run.Undisturbed → run.Lists directory →
      ((wmtRomSearch (some path) firmware run (some previous)).1 = .ok () ↔
        RomDirectory directory firmware) ∧
      (RomDirectory directory firmware →
        ∃ found, (wmtRomSearch (some path) firmware run (some previous)).2 = some found ∧
          RomOutput directory firmware found)) ∧
    (∀ first second : SearchRun, first.Undisturbed → first.Lists directory →
      second.Undisturbed → second.Lists directory →
      ((wmtRomSearch (some path) firmware first (some previous)).1 = .ok () ↔
        (wmtRomSearch (some path) firmware second (some previous)).1 = .ok ()) ∧
      ∃ found found', (wmtRomSearch (some path) firmware first (some previous)).2 = some found ∧
        (wmtRomSearch (some path) firmware second (some previous)).2 = some found' ∧
        SameRoms found found') ∧
    ∀ run : SearchRun,
      (wmtRomSearch (some path) firmware run (some previous)).1 ≠ .ok () →
        (wmtRomSearch (some path) firmware run (some previous)).2 = some previous := by
  refine ⟨fun run undisturbed lists => ?_, ?_, fun run failed => ?_⟩
  · rcases wmtRomSearch_cases nonempty undisturbed lists previous with
      ⟨wellFormed, found, output, search⟩ | ⟨malformed, errno, search⟩
    · rw [search]
      exact ⟨⟨fun _ => wellFormed, fun _ => rfl⟩, fun _ => ⟨found, rfl, output⟩⟩
    · rw [search]
      refine ⟨⟨?_, fun wellFormed => absurd wellFormed malformed⟩,
        fun wellFormed => absurd wellFormed malformed⟩
      rintro ⟨⟩
  · intro first second firstCalm firstLists secondCalm secondLists
    rcases wmtRomSearch_cases nonempty firstCalm firstLists previous with
      ⟨wellFormed, found, output, search⟩ | ⟨malformed, errno, search⟩ <;>
    rcases wmtRomSearch_cases nonempty secondCalm secondLists previous with
      ⟨wellFormed', found', output', search'⟩ | ⟨malformed', errno', search'⟩
    · rw [search, search']
      exact ⟨Iff.rfl, found, found', rfl, rfl, RomOutput.same output output'⟩
    · exact absurd wellFormed malformed'
    · exact absurd wellFormed' malformed
    · rw [search, search']
      refine ⟨⟨?_, ?_⟩, previous, previous, rfl, rfl, ⟨rfl, rfl, rfl, rfl, rfl, rfl, rfl⟩⟩
      · rintro ⟨⟩
      · rintro ⟨⟩
  · rw [wmtRomSearch, if_neg nonempty] at failed ⊢
    cases found : searchDirectory romStem (readRom firmware) run .zero with
    | error errno => rfl
    | ok result =>
        rw [found] at failed
        exact absurd rfl failed

/-- Three ROM patches of firmware 0x8a00 in no order, among them one for Wi-Fi and one for
Bluetooth with their versions. -/
def threeRoms : Directory where
  entries :=
    [{ name := ⟨ascii "soc1_0_ram_mcu_1_1_hdr.bin", by decide, by decide, by decide, by decide⟩
       node := .regular (List.replicate 27 0 ++ [0x10, 0, 0, 0, 3]) },
     { name := ⟨ascii "soc1_0_ram_bt_1_1_hdr.bin", by decide, by decide, by decide, by decide⟩
       node := .regular (List.replicate 27 0 ++ [0x20, 0, 0, 0, 1] ++ startMarker ++
         ascii "t-neptune-8a" ++ endMarker) },
     { name := ⟨ascii "soc1_0_ram_wifi_1_1_hdr.bin", by decide, by decide, by decide, by decide⟩
       node := .regular (ascii "20190101120000a" ++ List.replicate 12 0 ++ [0x10, 0, 0, 0, 0]) }]
  distinct := by decide

/-- They are found in either order, with both versions. -/
theorem rom_discovery_threeRoms :
    ∃ found other, RomOutput threeRoms 0x8a00 found ∧ found.seen = 0b1011 ∧
      found.wifi.text.cString = ascii "20190101120000a" ∧
      found.bt.text.cString = ascii "t-neptune-8a" ∧
      (wmtRomSearch (some (ascii "/vendor/firmware/")) 0x8a00
        (.ofEntries [.upTo 9, .failed .eintr] threeRoms.entries) (some .zero)).2 = some found ∧
      (wmtRomSearch (some (ascii "/vendor/firmware/")) 0x8a00
        (.ofEntries [] threeRoms.entries.reverse) (some .zero)).2 = some other ∧
      SameRoms found other := by
  have discovery := rom_discovery (ascii "/vendor/firmware/") (by decide) 0x8a00 threeRoms .zero
  have calm := SearchRun.ofEntries_undisturbed [.upTo 9, .failed .eintr] (by simp)
    threeRoms.entries
  have lists := SearchRun.ofEntries_lists [.upTo 9, .failed .eintr] (.refl threeRoms.entries)
  obtain ⟨iff, output⟩ := discovery.1 _ calm lists
  obtain ⟨found, result, shown⟩ := output (iff.mp (by decide +kernel))
  have fields : (wmtRomSearch (some (ascii "/vendor/firmware/")) 0x8a00
      (.ofEntries [.upTo 9, .failed .eintr] threeRoms.entries) (some .zero)).2.map
        (fun found => (found.seen, found.wifi.text.cString, found.bt.text.cString)) =
      some (0b1011, ascii "20190101120000a", ascii "t-neptune-8a") := by decide +kernel
  rw [result] at fields
  simp only [Option.map_some, Option.some.injEq, Prod.mk.injEq] at fields
  obtain ⟨first, other, firstResult, otherResult, same⟩ := (discovery.2.1 _ _ calm lists
    (SearchRun.ofEntries_undisturbed [] (by simp) _)
    (SearchRun.ofEntries_lists _ (List.reverse_perm threeRoms.entries))).2
  obtain rfl : found = first := Option.some.inj (result.symm.trans firstResult)
  exact ⟨found, other, shown, fields.1, fields.2.1, fields.2.2, result, otherResult, same⟩

end K50sv1.WmtLauncher.Firmware
