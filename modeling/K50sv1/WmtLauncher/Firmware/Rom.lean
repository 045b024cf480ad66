import K50sv1.WmtLauncher.Firmware.BtVersion
import K50sv1.WmtLauncher.Firmware.Patch

/-!
# Discovery of ROM patches

ROM patches are indexed by a type, and every type is optional.  Files whose names speak of
Wi-Fi or Bluetooth also contribute a version, and all files that contribute to one
version have to agree on it.  They agree as C strings: the bytes behind the terminator
are copied but not compared, so these alone may depend on the order of the directory.
-/

namespace K50sv1.WmtLauncher.Firmware

open K50sv1.Data
open K50sv1.Data.Bytes

def wmtRomTypes : Nat := 5

def wmtRomHeaderSize : Nat := 32

def wmtBtVersionFileLimit : Nat := 1024 * 1024

@[ext]
structure WmtRomInfo where
  type : UInt32
  address : Buffer 4
  name : Buffer wmtPatchNameSize
  deriving DecidableEq, Repr

/-- A zeroed record. -/
def WmtRomInfo.zero : WmtRomInfo :=
  ⟨0, .zero _, .zero _⟩

/-- A version with the flag that says whether there is one: `has_wifi_version` and
`wifi_version`, or `has_bt_version` and `bt_version`. -/
structure VersionSlot (size : Nat) where
  present : Bool
  text : Buffer size
  deriving DecidableEq, Repr

structure WmtRomSet where
  count : UInt32
  seen : Nat
  records : Fin wmtRomTypes → WmtRomInfo
  wifi : VersionSlot 16
  bt : VersionSlot wmtBtVersionSize
  deriving DecidableEq

/-- A zeroed set. -/
def WmtRomSet.zero : WmtRomSet where
  count := 0
  seen := 0
  records := fun _ => .zero
  wifi := ⟨false, .zero _⟩
  bt := ⟨false, .zero _⟩

/-! ## The functions -/

/-- A version has to agree with the one already there. -/
def VersionSlot.put {size : Nat} (slot : VersionSlot size) (version : Buffer size) :
    Except Errno (VersionSlot size) :=
  if slot.present ∧ slot.text.cString ≠ version.cString then .error .einval
  else .ok ⟨true, version⟩

/-- Without a version the slot stays as it is. -/
def VersionSlot.offer {size : Nat} (slot : VersionSlot size) :
    Option (Buffer size) → Except Errno (VersionSlot size)
  | none => .ok slot
  | some version => slot.put version

/-- `strstr` on a name. -/
def EntryName.mentions (name : EntryName) (text : List UInt8) : Bool :=
  (Search.find text name.bytes).isSome

def readBtVersion (candidate : Candidate) : Except Errno (Option (Buffer wmtBtVersionSize)) :=
  if candidate.size < wmtRomHeaderSize then
    .error .emsgsize
  else if wmtBtVersionFileLimit < candidate.size then
    .error .efbig
  else if ¬candidate.allocates then
    .error .enomem
  else
    match candidate.file.rewind with
    | .error errno => .error errno
    | .ok file =>
        match readExact file candidate.size with
        | (.error errno, _) => .error errno
        | (.ok data, file) =>
            match (readUninterrupted file 1).1 with
            | .error errno => .error errno
            | .ok (_ :: _) => .error .estale
            | .ok [] => btVersion data

/-- The `ram_wifi` part of `read_rom`. -/
def wifiAfter (name : EntryName) (header : List UInt8) (found : WmtRomSet) :
    Except Errno (VersionSlot 16) :=
  if name.mentions (ascii "ram_wifi") then (wmtPatchBuildVersion header).bind found.wifi.put
  else .ok found.wifi

/-- The `ram_bt` part of `read_rom`. -/
def btAfter (name : EntryName) (bt : Except Errno (Option (Buffer wmtBtVersionSize)))
    (found : WmtRomSet) : Except Errno (VersionSlot wmtBtVersionSize) :=
  if name.mentions (ascii "ram_bt") then bt.bind found.bt.offer else .ok found.bt

/-- What `read_rom` does once it has a header for its firmware; `bt` is what
`read_bt_version` would return. -/
def addRom (name : EntryName) (header : List UInt8)
    (bt : Except Errno (Option (Buffer wmtBtVersionSize))) (found : WmtRomSet) :
    Except Errno WmtRomSet :=
  let type := (header.getD 31 0).toUInt32
  if header.getD 27 0 &&& 0xf0 = 0 ∨ wmtRomTypes ≤ type.toNat then
    .error .einval
  else if BitSet.has found.seen type.toNat then
    .error .eexist
  else do
    let wifi ← wifiAfter name header found
    let bt ← btAfter name bt found
    return {
      count := found.count + 1
      seen := BitSet.insert found.seen type.toNat
      records := store found.records type.toNat
        { type
          address := .fill 4 (0 :: (header.drop 25).take 3)
          name := .fill wmtPatchNameSize name.bytes }
      wifi
      bt }

def readRom (firmware : UInt16) (candidate : Candidate) (found : WmtRomSet) :
    Except Errno WmtRomSet :=
  let name := candidate.name.bytes
  if name = [] ∨ wmtPatchNameSize ≤ name.length ∨ 0x2f ∈ name then
    .error .einval
  else
    match readExact candidate.file wmtRomHeaderSize with
    | (.error errno, _) => .error errno
    | (.ok header, file) =>
        if (header.getD 23 0).toUInt16 ≠ firmware &&& 0xff then
          .ok found
        else
          addRom candidate.name header (readBtVersion { candidate with file }) found

/-- The names of ROM patches start like this. -/
def romStem : List UInt8 :=
  ascii "soc1_0_ram"

/-- The second component is what `*output` holds afterwards. -/
def wmtRomSearch (directory : Option (List UInt8)) (firmware : UInt16) (run : SearchRun)
    (output : Option WmtRomSet) : Except Errno Unit × Option WmtRomSet :=
  match directory, output with
  | some path, some previous =>
      if path = [] then
        (.error .einval, some previous)
      else
        match searchDirectory romStem (readRom firmware) run .zero with
        | .error errno => (.error errno, some previous)
        | .ok found => (.ok (), some found)
  | _, _ => (.error .einval, output)

/-! ## What a file says -/

/-- The type of a ROM patch. -/
def romType (content : List UInt8) : Nat :=
  (content.getD 31 0).toNat

/-- The record of a file. -/
def romInfo (name : EntryName) (content : List UInt8) : WmtRomInfo where
  type := (content.getD 31 0).toUInt32
  address := .fill 4 (0 :: (content.drop 25).take 3)
  name := .fill wmtPatchNameSize name.bytes

/-- The header of a file is that of a ROM patch. -/
def RomMetadata (content : List UInt8) : Prop :=
  16 ≤ (content.getD 27 0).toNat ∧ romType content < wmtRomTypes

instance (content : List UInt8) : Decidable (RomMetadata content) :=
  inferInstanceAs (Decidable (_ ∧ _))

/-- The Wi-Fi version that a file contributes. -/
def romWifi (name : EntryName) (content : List UInt8) : Option (Buffer 16) :=
  if name.mentions (ascii "ram_wifi") then some (patchVersion content) else none

/-- What `read_bt_version` gets out of a whole file. -/
def btOf (content : List UInt8) : Except Errno (Option (Buffer wmtBtVersionSize)) :=
  if wmtBtVersionFileLimit < content.length then .error .efbig else btVersion content

/-- The Bluetooth version that a file contributes. -/
def romBt (name : EntryName) (content : List UInt8) :
    Except Errno (Option (Buffer wmtBtVersionSize)) :=
  if name.mentions (ascii "ram_bt") then btOf content else .ok none

theorem highNibble_eq_zero_iff (byte : UInt8) : byte &&& 0xf0 = 0 ↔ byte.toNat < 16 := by
  have nibbles : ∀ bits : BitVec 8, bits &&& 0xf0#8 = 0#8 ↔ bits.toNat < 16 := by decide
  rw [← UInt8.toBitVec_inj, UInt8.toBitVec_and]
  exact nibbles byte.toBitVec

/-- The whole file is read, whatever happens to the reads. -/
theorem readBtVersion_undisturbed {candidate : Candidate}
    (undisturbed : candidate.file.Undisturbed) (seeks : candidate.file.seekFault = none)
    (size : candidate.size = candidate.file.content.length) (allocates : candidate.allocates = true)
    (whole : wmtRomHeaderSize ≤ candidate.file.content.length) :
    readBtVersion candidate =
      if wmtBtVersionFileLimit < candidate.file.content.length then .error .efbig
      else btVersion candidate.file.content := by
  obtain ⟨⟨content, offset, answers, seekFault⟩, reported, name, memory⟩ := candidate
  dsimp only at seeks size allocates whole ⊢
  subst seeks size allocates
  have start : OpenFile.Undisturbed ⟨content, 0, answers, none⟩ := undisturbed
  have rest : OpenFile.rest ⟨content, 0, answers, none⟩ = content := List.drop_zero
  simp only [readBtVersion, if_neg (Nat.not_lt.mpr whole), not_true_eq_false, if_false,
    OpenFile.rewind]
  by_cases large : wmtBtVersionFileLimit < content.length
  · rw [if_pos large, if_pos large]
  rw [if_neg large, if_neg large]
  rcases readExact_undisturbed start content.length with ⟨-, later, suffix, read⟩ | ⟨short, -⟩
  · have calm : OpenFile.Undisturbed ⟨content, 0 + content.length, later, none⟩ :=
      start.of_suffix suffix
    have atEnd := readUninterrupted_end calm (by simp [OpenFile.rest]) Nat.one_pos
    rw [read]
    dsimp only
    rw [atEnd, rest, List.take_length]
  · rw [rest] at short
    exact absurd short (Nat.lt_irrefl _)

/-- The consumer of the search, as a function of what a file contains. -/
def examineRom (firmware : UInt16) (name : EntryName) (content : List UInt8)
    (found : WmtRomSet) : Except Errno WmtRomSet :=
  if content.length < wmtRomHeaderSize then
    .error .emsgsize
  else if content.getD 23 0 ≠ firmware.toUInt8 then
    .ok found
  else
    addRom name content (btOf content) found

/-- `read_rom` looks at the header only. -/
theorem addRom_take {content : List UInt8} (size : wmtRomHeaderSize ≤ content.length)
    (name : EntryName) (bt : Except Errno (Option (Buffer wmtBtVersionSize))) (found : WmtRomSet) :
    addRom name (content.take wmtRomHeaderSize) bt found = addRom name content bt found := by
  have byte27 : (content.take wmtRomHeaderSize).getD 27 0 = content.getD 27 0 := by
    simp [List.getD_eq_getElem?_getD, wmtRomHeaderSize]
  have byte31 : (content.take wmtRomHeaderSize).getD 31 0 = content.getD 31 0 := by
    simp [List.getD_eq_getElem?_getD, wmtRomHeaderSize]
  have address : ((content.take wmtRomHeaderSize).drop 25).take 3 = (content.drop 25).take 3 := by
    rw [List.drop_take, List.take_take]
    rfl
  have version : wmtPatchBuildVersion (content.take wmtRomHeaderSize) =
      wmtPatchBuildVersion content := by
    rw [wmtRomHeaderSize] at size ⊢
    rw [wmtPatchBuildVersion, wmtPatchBuildVersion, if_neg (by rw [List.length_take]; omega),
      if_neg (by omega), List.take_take]
    rfl
  rw [addRom, byte27, byte31, address, wifiAfter, version]
  rfl

theorem readRom_consumes (firmware : UInt16) :
    Consumes (readRom firmware) (examineRom firmware) := by
  intro candidate undisturbed start seeks size allocates found
  have whole : candidate.file.rest = candidate.file.content := by
    rw [OpenFile.rest, start, List.drop_zero]
  simp only [readRom, if_neg candidate.name.accepted, examineRom]
  rcases readExact_undisturbed undisturbed wmtRomHeaderSize with
    ⟨enough, answers, suffix, read⟩ | ⟨short, failed⟩
  · rw [whole] at enough read
    have byte23 : (candidate.file.content.take wmtRomHeaderSize).getD 23 0 =
        candidate.file.content.getD 23 0 := by
      simp [List.getD_eq_getElem?_getD, wmtRomHeaderSize]
    have calm : OpenFile.Undisturbed
        { candidate.file with offset := candidate.file.offset + wmtRomHeaderSize, answers } :=
      undisturbed.of_suffix suffix
    have bt : readBtVersion { candidate with
        file := { candidate.file with
          offset := candidate.file.offset + wmtRomHeaderSize, answers } } =
        btOf candidate.file.content :=
      readBtVersion_undisturbed calm seeks size allocates enough
    rw [read, if_neg (Nat.not_lt.mpr enough)]
    dsimp only at bt ⊢
    rw [byte23, addRom_take enough, bt]
    simp only [ne_eq, byte_eq_low_iff]
  · rw [whole] at short
    rw [if_pos short]
    rw [← Prod.mk.eta (p := readExact candidate.file wmtRomHeaderSize), failed]

/-! ## Versions -/

/-- The slot after some versions have been put into it. -/
structure ShowsVersion {size : Nat} (versions : List (Buffer size)) (slot : VersionSlot size) :
    Prop where
  flag : slot.present = true ↔ versions ≠ []
  text : ∀ version ∈ versions, slot.text.cString = version.cString
  start : versions = [] → slot.text = .zero size

/-- Nothing is left in a slot whose flag is not set. -/
theorem ShowsVersion.text_of_absent {size : Nat} {versions : List (Buffer size)}
    {slot : VersionSlot size} (shown : ShowsVersion versions slot)
    (absent : slot.present = false) : slot.text = .zero size := by
  apply shown.start
  by_contra nonempty
  rw [shown.flag.mpr nonempty] at absent
  cases absent

/-- A version that agrees with those of all earlier files is taken. -/
theorem VersionSlot.offer_agree {α : Type*} {size : Nat} {files : List α} {file : α}
    {version : α → Option (Buffer size)} {slot : VersionSlot size}
    (shown : ShowsVersion (files.filterMap version) slot)
    (agree : ∀ earlier ∈ files, ∀ text ∈ version earlier, ∀ text' ∈ version file,
      text.cString = text'.cString) :
    ∃ after, slot.offer (version file) = .ok after ∧
      ShowsVersion ((files ++ [file]).filterMap version) after := by
  rw [List.filterMap_append]
  cases offered : version file with
  | none => exact ⟨slot, rfl, by simpa [offered] using shown⟩
  | some text =>
      have agree : ∀ earlier ∈ files.filterMap version, earlier.cString = text.cString := by
        intro earlier member
        obtain ⟨other, otherMember, contributed⟩ := List.mem_filterMap.mp member
        exact agree other otherMember earlier contributed text offered
      have compatible : ¬(slot.present = true ∧ slot.text.cString ≠ text.cString) := by
        rintro ⟨present, different⟩
        obtain ⟨earlier, member⟩ := List.exists_mem_of_ne_nil _ (shown.flag.mp present)
        exact different ((shown.text earlier member).trans (agree earlier member))
      rw [List.filterMap_cons_some offered, List.filterMap_nil]
      refine ⟨⟨true, text⟩, if_neg compatible, ?_⟩
      constructor
      · simp
      · intro version member
        rcases List.mem_append.mp member with earlier | last
        · exact (agree version earlier).symm
        · rw [List.mem_singleton.mp last]
      · simp

/-- A version that disagrees with an earlier one is refused. -/
theorem VersionSlot.offer_clash {size : Nat} {versions : List (Buffer size)}
    {slot : VersionSlot size} (shown : ShowsVersion versions slot) {earlier text : Buffer size}
    (member : earlier ∈ versions) (different : earlier.cString ≠ text.cString) :
    slot.offer (some text) = .error .einval := by
  apply if_pos
  refine ⟨shown.flag.mpr (List.ne_nil_of_mem member), ?_⟩
  rw [shown.text earlier member]
  exact different

/-! ## The set -/

/-- A file that `read_rom` accepts. -/
structure AcceptedRom where
  name : EntryName
  content : List UInt8
  metadata : RomMetadata content
  bt : Option (Buffer wmtBtVersionSize)
  bt_eq : romBt name content = .ok bt

namespace AcceptedRom

def wifi (rom : AcceptedRom) : Option (Buffer 16) :=
  romWifi rom.name rom.content

/-- Two ROM patches can be in one set. -/
structure Agree (first second : AcceptedRom) : Prop where
  types : romType first.content ≠ romType second.content
  wifi : ∀ text ∈ first.wifi, ∀ text' ∈ second.wifi, text.cString = text'.cString
  bt : ∀ text ∈ first.bt, ∀ text' ∈ second.bt, text.cString = text'.cString

theorem Agree.symm {first second : AcceptedRom} (agree : first.Agree second) :
    second.Agree first where
  types := agree.types.symm
  wifi text member text' member' := (agree.wifi text' member' text member).symm
  bt text member text' member' := (agree.bt text' member' text member).symm

end AcceptedRom

/-- The set after some ROM patches have been added. -/
structure ShowsRoms (roms : List AcceptedRom) (found : WmtRomSet) : Prop where
  count : found.count = UInt32.ofNat roms.length
  seen : ∀ i, found.seen.testBit i = true ↔ ∃ rom ∈ roms, romType rom.content = i
  present : ∀ rom ∈ roms, ∀ i : Fin wmtRomTypes, romType rom.content = i →
    found.records i = romInfo rom.name rom.content
  absent : ∀ i : Fin wmtRomTypes, (∀ rom ∈ roms, romType rom.content ≠ i) →
    found.records i = .zero
  wifi : ShowsVersion (roms.filterMap AcceptedRom.wifi) found.wifi
  bt : ShowsVersion (roms.filterMap AcceptedRom.bt) found.bt

/-- The set with a further accepted file. -/
def takeRom (found : WmtRomSet) (rom : AcceptedRom) : Except Errno WmtRomSet :=
  if found.seen.testBit (romType rom.content) then
    .error .eexist
  else
    (found.wifi.offer rom.wifi).bind fun wifi =>
      (found.bt.offer rom.bt).bind fun bt =>
        .ok
          { count := found.count + 1
            seen := BitSet.insert found.seen (romType rom.content)
            records := store found.records (romType rom.content) (romInfo rom.name rom.content)
            wifi
            bt }

/-- What `read_rom` makes of a file with the metadata of a ROM patch. -/
theorem addRom_metadata {content : List UInt8} (size : wmtRomHeaderSize ≤ content.length)
    (metadata : RomMetadata content) (name : EntryName) (found : WmtRomSet) :
    addRom name content (btOf content) found =
      if found.seen.testBit (romType content) then .error .eexist
      else
        (found.wifi.offer (romWifi name content)).bind fun wifi =>
          ((romBt name content).bind found.bt.offer).bind fun bt =>
            .ok
              { count := found.count + 1
                seen := BitSet.insert found.seen (romType content)
                records := store found.records (romType content) (romInfo name content)
                wifi
                bt } := by
  have type : (content.getD 31 0).toUInt32.toNat = romType content := rfl
  have valid : ¬(content.getD 27 0 &&& 0xf0 = 0 ∨
      wmtRomTypes ≤ (content.getD 31 0).toUInt32.toNat) := by
    rw [highNibble_eq_zero_iff, type]
    exact not_or.mpr ⟨Nat.not_lt.mpr metadata.1, Nat.not_le.mpr metadata.2⟩
  have version : wmtPatchBuildVersion content = .ok (patchVersion content) := by
    rw [wmtRomHeaderSize] at size
    rw [wmtPatchBuildVersion, if_neg (by omega)]
    rfl
  have wifi : wifiAfter name content found = found.wifi.offer (romWifi name content) := by
    rw [wifiAfter, version, romWifi]
    split_ifs <;> rfl
  have bt : btAfter name (btOf content) found = (romBt name content).bind found.bt.offer := by
    rw [btAfter, romBt]
    split_ifs <;> rfl
  simp only [addRom, if_neg valid, wifi, bt, BitSet.has_eq_testBit]
  rfl

/-- Looking at a file without a set. -/
def inspectRom (firmware : UInt16) (name : EntryName) (content : List UInt8) :
    Except Errno (Option AcceptedRom) :=
  if content.length < wmtRomHeaderSize then
    .error .emsgsize
  else if content.getD 23 0 ≠ firmware.toUInt8 then
    .ok none
  else if metadata : RomMetadata content then
    match bt_eq : romBt name content with
    | .error errno => .error errno
    | .ok bt => .ok (some ⟨name, content, metadata, bt, bt_eq⟩)
  else
    .error .einval

theorem addRom_error {content : List UInt8} (malformed : ¬RomMetadata content) (name : EntryName)
    (bt : Except Errno (Option (Buffer wmtBtVersionSize))) (found : WmtRomSet) :
    addRom name content bt found = .error .einval := by
  have type : (content.getD 31 0).toUInt32.toNat = romType content := rfl
  apply if_pos
  rw [highNibble_eq_zero_iff, type]
  unfold RomMetadata at malformed
  omega

section File

variable {firmware : UInt16} {name : EntryName} {content : List UInt8}

/-- A file contributes exactly if it is for this firmware and can be read. -/
theorem inspectRom_eq_some_iff {rom : AcceptedRom} :
    inspectRom firmware name content = .ok (some rom) ↔
      rom.name = name ∧ rom.content = content ∧ wmtRomHeaderSize ≤ content.length ∧
        content.getD 23 0 = firmware.toUInt8 := by
  rw [inspectRom]
  constructor
  · intro looked
    split_ifs at looked with short other metadata
    · cases looked
    · split at looked
      · cases looked
      · obtain rfl := Option.some.inj (Except.ok.inj looked)
        exact ⟨rfl, rfl, Nat.not_lt.mp short, not_not.mp other⟩
  · obtain ⟨_, _, metadata, bt, bt_eq⟩ := rom
    rintro ⟨rfl, rfl, size, matching⟩
    rw [if_neg (Nat.not_lt.mpr size), if_neg (not_not.mpr matching), dif_pos metadata]
    split
    · next errno failed =>
      rw [failed] at bt_eq
      cases bt_eq
    · next other same =>
      have equal : bt = other := Except.ok.inj (bt_eq.symm.trans same)
      subst equal
      rfl

/-- A file does not stop the search exactly if it is well formed. -/
theorem inspectRom_isOk_iff :
    (∃ found, inspectRom firmware name content = .ok found) ↔
      wmtRomHeaderSize ≤ content.length ∧ (content.getD 23 0 = firmware.toUInt8 →
        RomMetadata content ∧ ∃ bt, romBt name content = .ok bt) := by
  constructor
  · rintro ⟨found, looked⟩
    rw [inspectRom] at looked
    split_ifs at looked with short other metadata
    · exact ⟨Nat.not_lt.mp short, fun matching => absurd matching other⟩
    · split at looked
      · cases looked
      · next bt bt_eq => exact ⟨Nat.not_lt.mp short, fun _ => ⟨metadata, bt, bt_eq⟩⟩
  · rintro ⟨size, readable⟩
    by_cases matching : content.getD 23 0 = firmware.toUInt8
    · obtain ⟨metadata, bt, bt_eq⟩ := readable matching
      let rom : AcceptedRom := ⟨name, content, metadata, bt, bt_eq⟩
      exact ⟨some rom, inspectRom_eq_some_iff.mpr ⟨rfl, rfl, size, matching⟩⟩
    · rw [inspectRom, if_neg (Nat.not_lt.mpr size), if_pos matching]
      exact ⟨_, rfl⟩

end File

/-- What the consumer makes of a file that contributes. -/
theorem examineRom_found {firmware : UInt16} {name : EntryName} {content : List UInt8}
    {rom : AcceptedRom} (looked : inspectRom firmware name content = .ok (some rom))
    (found : WmtRomSet) : examineRom firmware name content found = takeRom found rom := by
  obtain ⟨rfl, rfl, size, matching⟩ := inspectRom_eq_some_iff.mp looked
  rw [examineRom, if_neg (Nat.not_lt.mpr size), if_neg (not_not.mpr matching),
    addRom_metadata size rom.metadata, rom.bt_eq]
  rfl

/-- A file that cannot be read stops the search, if nothing else does. -/
theorem examineRom_failure {firmware : UInt16} {name : EntryName} {content : List UInt8}
    {errno : Errno} (looked : inspectRom firmware name content = .error errno)
    (found : WmtRomSet) : ∃ e, examineRom firmware name content found = .error e := by
  rw [inspectRom] at looked
  rw [examineRom]
  split_ifs at looked ⊢ with short other metadata
  · exact ⟨_, rfl⟩
  · rw [addRom_metadata (Nat.not_lt.mp short) metadata]
    split at looked
    · next failed =>
      rw [failed]
      split_ifs
      · exact ⟨_, rfl⟩
      · cases found.wifi.offer (romWifi name content) with
        | error errno => exact ⟨_, rfl⟩
        | ok wifi => exact ⟨_, rfl⟩
    · cases looked
  · exact ⟨_, addRom_error metadata name _ found⟩

theorem examineRom_nothing {firmware : UInt16} {name : EntryName} {content : List UInt8}
    (looked : inspectRom firmware name content = .ok none) (found : WmtRomSet) :
    examineRom firmware name content found = .ok found := by
  rw [inspectRom] at looked
  rw [examineRom]
  split_ifs at looked ⊢ with short other metadata
  · rfl
  · split at looked
    · cases looked
    · cases looked

/-- A ROM patch that agrees with all earlier ones is added. -/
theorem takeRom_agree {earlier : List AcceptedRom} {found : WmtRomSet}
    (shown : ShowsRoms earlier found) {rom : AcceptedRom}
    (agree : ∀ other ∈ earlier, other.Agree rom) :
    ∃ after, takeRom found rom = .ok after ∧ ShowsRoms (earlier ++ [rom]) after := by
  have unseen : ¬found.seen.testBit (romType rom.content) = true := by
    rw [shown.seen]
    rintro ⟨other, member, same⟩
    exact (agree other member).types same
  obtain ⟨wifi, wifiTaken, wifiShown⟩ :=
    VersionSlot.offer_agree shown.wifi fun other member => (agree other member).wifi
  obtain ⟨bt, btTaken, btShown⟩ :=
    VersionSlot.offer_agree shown.bt fun other member => (agree other member).bt
  refine ⟨_, by rw [takeRom, if_neg unseen, wifiTaken, btTaken]; rfl, ?_⟩
  constructor
  · rw [List.length_append, List.length_singleton, UInt32.ofNat_add, ← shown.count]
    rfl
  · exact BitSet.testBit_insert_concat shown.seen fun _ => Iff.rfl
  · intro other member i same
    dsimp only
    rcases List.mem_append.mp member with before | last
    · rw [store_other fun here => (agree other before).types (same.trans here)]
      exact shown.present other before i same
    · obtain rfl := List.mem_singleton.mp last
      exact store_same same.symm
  · intro i missing
    dsimp only
    rw [store_other fun here => missing rom List.mem_concat_self here.symm]
    exact shown.absent i fun other member => missing other (List.mem_append_left _ member)
  · exact wifiShown
  · exact btShown

/-- A ROM patch that disagrees with an earlier one is refused. -/
theorem takeRom_clash {earlier : List AcceptedRom} {found : WmtRomSet}
    (shown : ShowsRoms earlier found) {rom other : AcceptedRom} (member : other ∈ earlier)
    (disagree : ¬other.Agree rom) : ∃ errno, takeRom found rom = .error errno := by
  rw [takeRom]
  split_ifs with seen
  · exact ⟨_, rfl⟩
  have types : romType other.content ≠ romType rom.content := by
    intro same
    exact seen ((shown.seen _).mpr ⟨other, member, same⟩)
  by_cases wifi : ∀ text ∈ other.wifi, ∀ text' ∈ rom.wifi, text.cString = text'.cString
  · have bt : ¬∀ text ∈ other.bt, ∀ text' ∈ rom.bt, text.cString = text'.cString :=
      fun bt => disagree ⟨types, wifi, bt⟩
    push Not at bt
    obtain ⟨text, contributed, text', offered, different⟩ := bt
    have refused := VersionSlot.offer_clash shown.bt
      (List.mem_filterMap.mpr ⟨other, member, contributed⟩) different
    rw [Option.mem_def.mp offered, refused]
    cases found.wifi.offer rom.wifi with
    | error errno => exact ⟨_, rfl⟩
    | ok slot => exact ⟨_, rfl⟩
  · push Not at wifi
    obtain ⟨text, contributed, text', offered, different⟩ := wifi
    have refused := VersionSlot.offer_clash shown.wifi
      (List.mem_filterMap.mpr ⟨other, member, contributed⟩) different
    rw [Option.mem_def.mp offered, refused]
    exact ⟨_, rfl⟩

/-- The set is a collector of accepted files. -/
theorem romCollector (firmware : UInt16) :
    Collector (fun file : EntryName × List UInt8 => inspectRom firmware file.1 file.2)
      (fun found file => examineRom firmware file.1 file.2 found) AcceptedRom.Agree
      ShowsRoms where
  failure found _ _ looked := examineRom_failure looked found
  nothing found _ looked := examineRom_nothing looked found
  agreement _ _ looked shown agree := by
    rw [examineRom_found looked]
    exact takeRom_agree shown agree
  clash _ _ looked shown member disagree := by
    rw [examineRom_found looked]
    exact takeRom_clash shown member disagree

/-! ## Results of any run -/

/-- What is marked as seen is a record with the name of a candidate. -/
def RomsSound (found : WmtRomSet) : Prop :=
  ∀ i : Fin wmtRomTypes, found.seen.testBit i = true →
    (found.records i).type.toNat = i ∧
      ∃ name : EntryName, romStem <+: name.bytes ∧
        (found.records i).name = .fill wmtPatchNameSize name.bytes

/-- What the set becomes. -/
theorem addRom_eq_ok {name : EntryName} {header : List UInt8}
    {bt : Except Errno (Option (Buffer wmtBtVersionSize))} {found after : WmtRomSet}
    (added : addRom name header bt found = .ok after) :
    after.seen = BitSet.insert found.seen (romType header) ∧
      after.records = store found.records (romType header) (romInfo name header) := by
  unfold addRom at added
  dsimp only at added
  split_ifs at added
  cases wifi : wifiAfter name header found with
  | error errno =>
      rw [wifi] at added
      cases added
  | ok slot =>
      cases version : btAfter name bt found with
      | error errno =>
          rw [wifi, version] at added
          cases added
      | ok slot' =>
          rw [wifi, version] at added
          obtain rfl := Except.ok.inj added
          exact ⟨rfl, rfl⟩

theorem readRom_sound {firmware : UInt16} {candidate : Candidate} {found after : WmtRomSet}
    (named : romStem <+: candidate.name.bytes) (sound : RomsSound found)
    (read : readRom firmware candidate found = .ok after) : RomsSound after := by
  unfold readRom at read
  dsimp only at read
  split_ifs at read
  split at read
  · cases read
  · next header file _ =>
    split_ifs at read
    · exact Except.ok.inj read ▸ sound
    · obtain ⟨seen, records⟩ := addRom_eq_ok read
      intro i marked
      rw [seen, BitSet.testBit_insert, Bool.or_eq_true, decide_eq_true_eq] at marked
      rw [records]
      by_cases here : (i : Nat) = romType header
      · rw [store_same here]
        exact ⟨here.symm, candidate.name, named, rfl⟩
      · rw [store_other here]
        exact sound i (marked.resolve_right fun same => here same.symm)

/-- The records of a set that the search reports, whatever happened in the run. -/
theorem wmtRomSearch_sound {directory : List UInt8} {firmware : UInt16} {run : SearchRun}
    {previous found : WmtRomSet}
    (searched : wmtRomSearch (some directory) firmware run (some previous) = (.ok (), some found)) :
    RomsSound found := by
  rw [wmtRomSearch] at searched
  split_ifs at searched with empty
  · cases searched
  split at searched
  · cases searched
  · next search =>
    cases searched
    have start : RomsSound .zero := by
      intro i marked
      simp [WmtRomSet.zero] at marked
    exact searchDirectory_invariant (fun _ _ _ => readRom_sound) start search

end K50sv1.WmtLauncher.Firmware
