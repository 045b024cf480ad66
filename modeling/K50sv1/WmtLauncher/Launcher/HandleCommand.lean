import Mathlib.Data.List.FinRange
import K50sv1.WmtLauncher.Firmware.PatchDiscovery
import K50sv1.WmtLauncher.Firmware.Rom
import K50sv1.WmtLauncher.Protocol.Reply

/-!
# Handling a command

`handle_command` searches, encodes the result, writes one frame to the device and, if the
device has taken it, publishes versions.  Three layers have to agree for this: what a
search can report, what is copied into the records, and what the encoder accepts.  Every
set that a search reports passes the checks of the encoder, so a search that succeeds is
always answered with its list.
-/

namespace K50sv1.WmtLauncher.Launcher

open K50sv1.Data
open K50sv1.Data.Bytes
open K50sv1.WmtLauncher.Firmware
open K50sv1.WmtLauncher.Protocol

/-! ## The function -/

/-- How the device answers one `write`, and what `stop_requested` is afterwards. -/
structure WriteAnswer where
  result : Except Errno Nat
  stopRequested : Bool
  deriving DecidableEq

/-- The properties that `handle_command` publishes. -/
inductive VersionProperty where
  | patch
  | wifi
  | bt
  deriving DecidableEq, Repr

def VersionProperty.key : VersionProperty → String
  | .patch => "persist.vendor.connsys.patch.version"
  | .wifi => "persist.vendor.connsys.wifi_fw_ver"
  | .bt => "persist.vendor.connsys.bt_fw_ver"

/-- No version is published over another one. -/
theorem VersionProperty.key_injective : Function.Injective VersionProperty.key := by
  intro first second same
  cases first <;> cases second <;> simp [key] at same ⊢

/-- What others see of a command: a `write` to the device or a `property_set`, whose
result is only logged. -/
inductive Event where
  | write (frame : List UInt8) (answer : WriteAnswer)
  | publish (property : VersionProperty) (value : List UInt8)
  deriving DecidableEq

/-- The answers of the system during one command. -/
structure Environment where
  /-- `WMT_CHIP_INFO` with argument 0. -/
  chip : Except Errno Nat
  /-- `WMT_CHIP_INFO` with argument 2. -/
  version : Except Errno Nat
  search : SearchRun
  writes : List WriteAnswer
  /-- What the array `frame` holds before anything is written to it. -/
  stack : Buffer wmtCmd2WriteMax

def supportedChip (chip : Nat) : Bool :=
  chip = 0x6755 ∨ chip = 0x0326

/-- The versions to publish with a reply. -/
abbrev Versions := List (VersionProperty × List UInt8)

/-- A successful search. -/
inductive Found where
  | patches (found : WmtFirmwareResult)
  | roms (found : WmtRomSet)

/-- The firmware version of a supported chip, by the two `WMT_CHIP_INFO` requests. -/
def firmwareVersion (environment : Environment) : Except Errno UInt16 :=
  match environment.chip with
  | .error errno => .error errno
  | .ok chip =>
      if ¬supportedChip chip then
        .error .enodev
      else
        match environment.version with
        | .error errno => .error errno
        | .ok version =>
            if 0xffff < version then
              .error .erange
            else
              .ok (UInt16.ofNat version)

/-- The first part of `handle_command`, up to its `result`. -/
def searchCommand (environment : Environment) (directory : List UInt8) (command : WmtCommand) :
    Except Errno Found :=
  let normal := command.text.cString = ascii "srh_patch"
  let isRom := command.text.cString = ascii "srh_rom_patch"
  if normal ∨ isRom then
    match firmwareVersion environment with
    | .error errno => .error errno
    | .ok version =>
        if normal then
          match wmtFirmwareSearch (some directory) version environment.search (some .zero) with
          | (.ok (), some found) => .ok (.patches found)
          | (.ok (), none) => .error .einval
          | (.error errno, _) => .error errno
        else
          match wmtRomSearch (some directory) version environment.search (some .zero) with
          | (.ok (), some found) => .ok (.roms found)
          | (.ok (), none) => .error .einval
          | (.error errno, _) => .error errno
  else
    .error .eopnotsupp

namespace Found

def kind : Found → UInt32
  | .patches _ => wmtCmd2PatchList
  | .roms _ => wmtCmd2RomList

/-- The records copied for the reply. -/
def records : Found → List WmtCmd2Record
  | .patches found =>
      ((List.finRange wmtMaxPatches).take found.patches.count.toNat).map fun i =>
        { index := (found.patches.records i).sequence
          address := (found.patches.records i).address
          name := (found.patches.records i).name }
  | .roms found =>
      ((List.finRange wmtRomTypes).filter fun type : Fin wmtRomTypes =>
          BitSet.has found.seen type.val).map fun type =>
        { index := UInt32.ofNat type.val
          address := (found.records type).address
          name := (found.records type).name }

/-- The versions published once the reply has been accepted. -/
def versions : Found → Versions
  | .patches found => [(.patch, (found.versions ⟨0, by decide⟩).cString)]
  | .roms found =>
      (if found.wifi.present then [(.wifi, found.wifi.text.cString)] else []) ++
        (if found.bt.present then [(.bt, found.bt.text.cString)] else [])

end Found

/-- `send_frame`.  Without a result the loop has not ended: every answer so far was an
interruption. -/
def sendFrame (frame : List UInt8) : List WriteAnswer → List Event × Option (Except Errno Unit)
  | [] => ([], none)
  | answer :: rest =>
      match answer.result with
      | .error errno =>
          if errno = .eintr ∧ ¬answer.stopRequested then
            let (events, result) := sendFrame frame rest
            (.write frame answer :: events, result)
          else
            ([.write frame answer], some (.error errno))
      | .ok written =>
          ([.write frame answer], some (if written = frame.length then .ok () else .error .eproto))

/-- The end of `handle_command`. -/
def sendAndPublish (frame : List UInt8) (versions : Versions)
    (answers : List WriteAnswer) : List Event × Option (Except Errno Unit) :=
  match sendFrame frame answers with
  | (events, some (.ok ())) =>
      (events ++ versions.map fun version => .publish version.1 version.2, some (.ok ()))
  | (events, result) => (events, result)

/-- `handle_command` up to `send_frame`: the frame, and the versions to publish once it is
accepted. -/
def composeReply (environment : Environment) (directory : List UInt8) (command : WmtCommand) :
    Except Errno (List UInt8 × Versions) :=
  let frame : FrameBuffer :=
    { bytes := environment.stack.bytes
      capacity := wmtCmd2WriteMax
      fits := environment.stack.length_eq.ge }
  let listed : Except Errno (Found × Nat × List UInt8) :=
    match searchCommand environment directory command with
    | .error errno => .error errno
    | .ok found =>
        match wmtReplyList (some command) found.kind (some ⟨found.records, rfl⟩) (some frame) with
        | (.ok size, bytes) => .ok (found, size, bytes.getD [])
        | (.error errno, _) => .error errno
  match listed with
  | .ok (found, size, bytes) => .ok (bytes.take size, found.versions)
  | .error errno =>
      match wmtReplyStatus (some command) errno.result (some frame) with
      | (.ok size, bytes) => .ok ((bytes.getD []).take size, [])
      | (.error errno, _) => .error errno

def handleCommand (environment : Environment) (directory : List UInt8) (command : WmtCommand) :
    List Event × Option (Except Errno Unit) :=
  match composeReply environment directory command with
  | .ok (frame, versions) => sendAndPublish frame versions environment.writes
  | .error errno => ([], some (.error errno))

/-! ## What a search can report -/

/-- The chip is supported and its version has 16 bits. -/
structure Reports (environment : Environment) (version : Nat) : Prop where
  chip : ∃ chip, environment.chip = .ok chip ∧ (chip = 0x6755 ∨ chip = 0x0326)
  version_eq : environment.version = .ok version
  inRange : version ≤ 0xffff

/-- The search for a command succeeds. -/
inductive Finds (environment : Environment) (directory : List UInt8) (command : WmtCommand) :
    Found → Prop
  | patches {version : Nat} {found : WmtFirmwareResult}
      (text : command.text.cString = ascii "srh_patch") (reports : Reports environment version)
      (searched : wmtFirmwareSearch (some directory) (UInt16.ofNat version) environment.search
        (some .zero) = (.ok (), some found)) :
      Finds environment directory command (.patches found)
  | roms {version : Nat} {found : WmtRomSet}
      (text : command.text.cString = ascii "srh_rom_patch") (reports : Reports environment version)
      (searched : wmtRomSearch (some directory) (UInt16.ofNat version) environment.search
        (some .zero) = (.ok (), some found)) :
      Finds environment directory command (.roms found)

theorem firmwareVersion_eq_ok_iff {environment : Environment} {firmware : UInt16} :
    firmwareVersion environment = .ok firmware ↔
      ∃ version, Reports environment version ∧ UInt16.ofNat version = firmware := by
  constructor
  · intro answered
    unfold firmwareVersion at answered
    split at answered
    · cases answered
    · next chip chip_eq =>
      by_cases supported : supportedChip chip = true
      case neg =>
        rw [if_pos supported] at answered
        cases answered
      rw [if_neg (not_not.mpr supported)] at answered
      split at answered
      · cases answered
      · next version version_eq =>
        split_ifs at answered with large
        exact ⟨version, ⟨⟨chip, chip_eq, of_decide_eq_true supported⟩, version_eq,
          Nat.not_lt.mp large⟩, Except.ok.inj answered⟩
  · rintro ⟨version, ⟨⟨chip, chip_eq, supported⟩, version_eq, inRange⟩, rfl⟩
    simp [firmwareVersion, chip_eq, supportedChip, supported, version_eq, Nat.not_lt.mpr inRange]

theorem searchCommand_eq_ok_iff {environment : Environment} {directory : List UInt8}
    {command : WmtCommand} {found : Found} :
    searchCommand environment directory command = .ok found ↔
      Finds environment directory command found := by
  constructor
  · intro searched
    unfold searchCommand at searched
    dsimp only at searched
    split_ifs at searched with known normal
    all_goals
      split at searched
      · cases searched
    · next answered =>
      obtain ⟨version, reports, rfl⟩ := firmwareVersion_eq_ok_iff.mp answered
      split at searched
      · next search =>
        cases searched
        exact .patches normal reports search
      · cases searched
      · cases searched
    · next answered =>
      obtain ⟨version, reports, rfl⟩ := firmwareVersion_eq_ok_iff.mp answered
      split at searched
      · next search =>
        cases searched
        exact .roms (known.resolve_left normal) reports search
      · cases searched
      · cases searched
  · rintro (⟨text, reports, searched⟩ | ⟨text, reports, searched⟩)
    all_goals have answered := firmwareVersion_eq_ok_iff.mpr ⟨_, reports, rfl⟩
    · simp [searchCommand, text, answered, searched]
    · have other : ascii "srh_rom_patch" ≠ ascii "srh_patch" := by decide
      simp [searchCommand, text, answered, searched, other]

/-- A name that was copied from a directory entry. -/
def FromEntry (name : Buffer 256) : Prop :=
  ∃ entry : EntryName, entry.bytes ≠ ascii "." ∧ entry.bytes ≠ ascii ".." ∧
    name = .fill 256 entry.bytes

namespace FromEntry

theorem of_stem {stem : List UInt8} (here : ¬stem <+: ascii ".") (parent : ¬stem <+: ascii "..")
    {entry : EntryName} (named : stem <+: entry.bytes) : FromEntry (.fill 256 entry.bytes) :=
  ⟨entry, fun equal => here (equal ▸ named), fun equal => parent (equal ▸ named), rfl⟩

variable {name : Buffer 256}

theorem basename (copied : FromEntry name) : Basename name := by
  obtain ⟨entry, notHere, notParent, rfl⟩ := copied
  have text := Buffer.cString_fill (Nat.le_of_lt entry.short) entry.noNul
  constructor
  case terminated => exact Buffer.zero_mem_fill entry.short
  all_goals rw [text]
  · exact entry.nonempty
  · exact entry.noSlash
  · exact notHere
  · exact notParent

/-- The encoder finds nothing behind the name that it would have to clear. -/
theorem fill_cString (copied : FromEntry name) : .fill 256 name.cString = name := by
  obtain ⟨entry, -, -, rfl⟩ := copied
  rw [Buffer.cString_fill (Nat.le_of_lt entry.short) entry.noNul]

end FromEntry

/-! ## What a reply should be -/

/-- The records are the patches of a search by their position in the download. -/
structure ListsPatches (found : WmtFirmwareResult) (records : List WmtCmd2Record) : Prop where
  length : records.length = found.patches.count.toNat
  record : ∀ (i : Fin wmtMaxPatches) (record : WmtCmd2Record), records[i.val]? = some record →
    record.index.toNat = i.val + 1 ∧
    record.address = (found.patches.records i).address ∧
    record.name = (found.patches.records i).name

/-- The records are the ROM patches of a search by ascending type. -/
structure ListsRoms (found : WmtRomSet) (records : List WmtCmd2Record) : Prop where
  ascending : records.Pairwise fun first second => first.index.toNat < second.index.toNat
  record : ∀ record, record ∈ records ↔
    ∃ type : Fin wmtRomTypes, found.seen.testBit type = true ∧ record.index.toNat = type.val ∧
      record.address = (found.records type).address ∧ record.name = (found.records type).name

namespace Found

/-- A list reply of this kind, with these records, is the result of the search. -/
inductive ListedAs : Found → UInt32 → List WmtCmd2Record → Prop
  | patches {found : WmtFirmwareResult} {records : List WmtCmd2Record}
      (lists : ListsPatches found records) : ListedAs (.patches found) wmtCmd2PatchList records
  | roms {found : WmtRomSet} {records : List WmtCmd2Record} (lists : ListsRoms found records) :
      ListedAs (.roms found) wmtCmd2RomList records

theorem ListedAs.listsPatches {found : WmtFirmwareResult} {kind : UInt32}
    {records : List WmtCmd2Record} (listed : (Found.patches found).ListedAs kind records) :
    ListsPatches found records := by
  cases listed with
  | patches lists => exact lists

/-- The versions that a search has found: that of the first patch, or those of the ROM patches
that have one. -/
inductive HasVersion : Found → VersionProperty → List UInt8 → Prop
  | patch (found : WmtFirmwareResult) :
      HasVersion (.patches found) .patch (found.versions ⟨0, by decide⟩).cString
  | wifi {found : WmtRomSet} (present : found.wifi.present = true) :
      HasVersion (.roms found) .wifi found.wifi.text.cString
  | bt {found : WmtRomSet} (present : found.bt.present = true) :
      HasVersion (.roms found) .bt found.bt.text.cString

/-- Every version of the search is published, once, and nothing else is. -/
structure Publishes (found : Found) (versions : Versions) : Prop where
  once : (versions.map Prod.fst).Nodup
  values : ∀ property value, (property, value) ∈ versions ↔ found.HasVersion property value

theorem publishes_versions (found : Found) : found.Publishes found.versions := by
  cases found with
  | patches found =>
      refine ⟨List.nodup_singleton _, fun property value => ?_⟩
      rw [versions, List.mem_singleton, Prod.mk.injEq]
      constructor
      · rintro ⟨rfl, rfl⟩
        exact .patch found
      · rintro ⟨⟩
        exact ⟨rfl, rfl⟩
  | roms found =>
      refine ⟨?_, fun property value => ?_⟩
      · rw [versions]
        split_ifs <;> simp
      · rw [versions, List.mem_append, List.mem_ite_nil_right, List.mem_ite_nil_right,
          List.mem_singleton, List.mem_singleton, Prod.mk.injEq, Prod.mk.injEq]
        constructor
        · rintro (⟨present, rfl, rfl⟩ | ⟨present, rfl, rfl⟩)
          · exact .wifi present
          · exact .bt present
        · rintro (_ | present | present)
          · exact .inl ⟨present, rfl, rfl⟩
          · exact .inr ⟨present, rfl, rfl⟩

/-- The records of a search are its result, and the encoder accepts them. -/
structure Listable (found : Found) : Prop where
  listed : found.ListedAs found.kind found.records
  names : ∀ record ∈ found.records, FromEntry record.name
  wellFormed : WellFormedList found.kind found.records

end Found

/-! ## The encoder accepts what a search reports -/

theorem mem_take_finRange {bound count : Nat} {i : Fin bound}
    (member : i ∈ (List.finRange bound).take count) : i.val < count := by
  have value := List.mem_map_of_mem (f := Fin.val) member
  rw [List.map_take, List.map_coe_finRange_eq_range, List.take_range, List.mem_range] at value
  omega

/-- A complete set of patches passes the checks of the encoder. -/
theorem listable_patches {found : WmtFirmwareResult} (sound : PatchesSound found)
    (complete : wmtPatchSetComplete found.patches = .ok ()) : (Found.patches found).Listable := by
  obtain ⟨positive, bounded, seen⟩ := wmtPatchSetComplete_eq_ok_iff.mp complete
  have marked : ∀ i ∈ (List.finRange wmtMaxPatches).take found.patches.count.toNat,
      found.patches.seen.testBit i = true := by
    intro i member
    rw [seen, decide_eq_true (mem_take_finRange member)]
  have length : (Found.patches found).records.length = found.patches.count.toNat := by
    rw [Found.records, List.length_map, List.length_take, List.length_finRange]
    exact Nat.min_eq_left bounded
  have lists : ListsPatches found (Found.patches found).records := by
    refine ⟨length, fun i record at_i => ?_⟩
    rw [Found.records, List.getElem?_map, Option.map_eq_some_iff] at at_i
    obtain ⟨j, taken, rfl⟩ := at_i
    obtain rfl : i = j := by
      obtain ⟨inside, same⟩ := List.getElem?_eq_some_iff.mp taken
      simpa using same
    exact ⟨(sound i (marked i (List.mem_of_getElem? taken))).1, rfl, rfl⟩
  have order : ((Found.patches found).records.map fun record => record.index.toNat) =
      List.range' 1 found.patches.count.toNat := by
    apply List.ext_getElem
    · rw [List.length_map, length, List.length_range']
    · intro i inside _
      rw [List.length_map, length] at inside
      have at_i := List.getElem?_eq_getElem (length.symm ▸ inside)
      rw [List.getElem_map, (lists.record ⟨i, by omega⟩ _ at_i).1, List.getElem_range', Nat.one_mul,
        Nat.add_comm]
  have names : ∀ record ∈ (Found.patches found).records, FromEntry record.name := by
    intro record member
    obtain ⟨i, inside, rfl⟩ := List.mem_map.mp member
    obtain ⟨-, entry, named, copied⟩ := sound i (marked i inside)
    exact copied ▸ .of_stem (by decide) (by decide) named
  refine ⟨.patches lists, names, ⟨.inl ⟨rfl, ?_, ?_⟩,
    fun record member => (names record member).basename, ?_, ?_⟩⟩
  · rw [length]
    exact positive
  · rw [length]
    exact bounded
  · intro record member
    have index := List.mem_map_of_mem (f := fun record => record.index.toNat) member
    rw [order, List.mem_range'_1] at index
    rw [Found.kind, IndexInRange, if_pos rfl, length]
    omega
  · apply List.Nodup.of_map UInt32.toNat
    rw [List.map_map]
    exact order ▸ List.nodup_range'

theorem toNat_type (type : Fin wmtRomTypes) : (UInt32.ofNat type.val).toNat = type.val := by
  revert type
  decide

/-- Any set of ROM patches passes the checks of the encoder. -/
theorem listable_roms {found : WmtRomSet} (sound : RomsSound found) :
    (Found.roms found).Listable := by
  have lists : ListsRoms found (Found.roms found).records := by
    constructor
    · rw [Found.records, List.pairwise_map]
      refine ((List.pairwise_lt_finRange _).filter _).imp fun {first second} before => ?_
      rw [toNat_type, toNat_type]
      exact before
    · intro record
      simp only [Found.records, List.mem_map, List.mem_filter, List.mem_finRange, true_and,
        BitSet.has_eq_testBit]
      constructor
      · rintro ⟨type, marked, rfl⟩
        exact ⟨type, marked, toNat_type type, rfl, rfl⟩
      · rintro ⟨type, marked, index, address, name⟩
        refine ⟨type, marked, ?_⟩
        rw [← address, ← name, UInt32.toNat_inj.mp ((toNat_type type).trans index.symm)]
  have names : ∀ record ∈ (Found.roms found).records, FromEntry record.name := by
    intro record member
    obtain ⟨type, marked, rfl⟩ := List.mem_map.mp member
    rw [List.mem_filter, BitSet.has_eq_testBit] at marked
    obtain ⟨-, entry, named, copied⟩ := sound type marked.2
    exact copied ▸ .of_stem (by decide) (by decide) named
  refine ⟨.roms lists, names, ⟨.inr ⟨rfl, ?_⟩, fun record member => (names record member).basename,
    ?_, ?_⟩⟩
  · rw [Found.records, List.length_map]
    exact (List.length_filter_le _ _).trans_eq List.length_finRange
  · intro record member
    obtain ⟨type, -, index, -⟩ := (lists.record record).mp member
    have bound := type.isLt
    show record.index.toNat ≤ 4
    rw [index]
    exact Nat.le_of_lt_succ bound
  · refine List.pairwise_map.mpr (lists.ascending.imp fun {first second} before same => ?_)
    rw [same] at before
    exact absurd before (Nat.lt_irrefl _)

theorem Finds.listable {environment : Environment} {directory : List UInt8} {command : WmtCommand}
    {found : Found} (finds : Finds environment directory command found) : found.Listable := by
  cases finds with
  | patches _ _ searched =>
      obtain ⟨sound, complete⟩ := wmtFirmwareSearch_sound searched
      exact listable_patches sound complete
  | roms _ _ searched => exact listable_roms (wmtRomSearch_sound searched)

/-! ## The frame -/

/-- The command came from the decoder. -/
def Decoded (command : WmtCommand) : Prop :=
  ∃ frame session previous,
    wmtCommandDecode (some frame) session (some previous) = (.ok (), some command)

theorem Decoded.bound {command : WmtCommand} (decoded : Decoded command) :
    command.session ≠ 0 ∧ command.transaction ≠ 0 := by
  obtain ⟨frame, session, previous, decoded⟩ := decoded
  rcases wmtCommandDecode_cases frame session previous with ⟨accepted, result⟩ | ⟨-, _, result⟩
  · rw [result] at decoded
    cases decoded
    exact ⟨accepted.bound, accepted.started⟩
  · rw [result] at decoded
    cases decoded

/-- A list reply with the result of a search. -/
structure ListFrame (command : WmtCommand) (found : Found) (frame : List UInt8) : Prop where
  length : frame.length = 40 + 264 * (ListReply.decode frame).records.length
  listed : found.ListedAs (ListReply.decode frame).header.kind.toUInt32
    (ListReply.decode frame).records
  session : (ListReply.decode frame).header.sessionId = command.session
  transaction : (ListReply.decode frame).header.transactionId = command.transaction
  result : (ListReply.decode frame).header.result = 0

/-- A status reply with an error number. -/
structure StatusFrame (command : WmtCommand) (errno : Errno) (frame : List UInt8) : Prop where
  length : frame.length = 32
  kind : (WmtCmd2Header.decode frame).kind.toUInt32 = wmtCmd2Status
  session : (WmtCmd2Header.decode frame).sessionId = command.session
  transaction : (WmtCmd2Header.decode frame).transactionId = command.transaction
  result : (WmtCmd2Header.decode frame).result.toInt = -errno.number

theorem Found.Listable.listFrame {found : Found} (listable : found.Listable)
    (command : WmtCommand) :
    ListFrame command found (listReply command found.kind found.records).bytes := by
  have decoded := listable.wellFormed.decode_listReply command []
  rw [List.append_nil] at decoded
  have sent : (listReply command found.kind found.records).records = found.records := by
    rw [listReply, List.map_congr_left (g := id), List.map_id]
    intro record member
    rw [WmtCmd2Record.clean, (listable.names record member).fill_cString]
    rfl
  constructor
  case length =>
    rw [decoded, sent]
    exact length_listReply command found.kind found.records
  case listed =>
    rw [decoded, sent]
    exact listable.wellFormed.kind_toUInt16.symm ▸ listable.listed
  all_goals
    rw [decoded]
    rfl

theorem statusFrame (command : WmtCommand) (errno : Errno) :
    StatusFrame command errno (replyHeaderOf command wmtCmd2Status 0 errno.result).bytes := by
  have decoded := (replyHeaderOf command wmtCmd2Status 0 errno.result).decode_bytes []
  rw [List.append_nil] at decoded
  constructor
  case length => exact WmtCmd2Header.length_bytes _
  all_goals rw [decoded]
  · rfl
  · rfl
  · rfl
  · exact errno.toInt_result

/-! ## Sending and publishing -/

def WriteAnswer.Interrupted (answer : WriteAnswer) : Prop :=
  answer.result = .error .eintr ∧ answer.stopRequested = false

/-- What sending a frame can look like: the same frame is written until an answer is not
an interruption, and versions are published if this answer is the length of the frame. -/
inductive Transmits (frame : List UInt8) (versions : Versions) :
    List WriteAnswer → List Event × Option (Except Errno Unit) → Prop
  | interrupted {answers : List WriteAnswer}
      (interruptions : ∀ answer ∈ answers, answer.Interrupted) :
      Transmits frame versions answers (answers.map (.write frame), none)
  | accepted (earlier : List WriteAnswer) {rest : List WriteAnswer} {last : WriteAnswer}
      (interruptions : ∀ answer ∈ earlier, answer.Interrupted)
      (complete : last.result = .ok frame.length) :
      Transmits frame versions (earlier ++ last :: rest)
        ((earlier ++ [last]).map (.write frame) ++
          versions.map fun version => .publish version.1 version.2, some (.ok ()))
  | refused (earlier : List WriteAnswer) {rest : List WriteAnswer} {last : WriteAnswer}
      {errno : Errno}
      (interruptions : ∀ answer ∈ earlier, answer.Interrupted)
      (final : ¬last.Interrupted) (incomplete : last.result ≠ .ok frame.length) :
      Transmits frame versions (earlier ++ last :: rest)
        ((earlier ++ [last]).map (.write frame), some (.error errno))

namespace Transmits

variable {frame : List UInt8} {versions : Versions}
  {answers : List WriteAnswer} {events : List Event} {result : Option (Except Errno Unit)}

theorem cons {answer : WriteAnswer} (interruption : answer.Interrupted)
    (transmits : Transmits frame versions answers (events, result)) :
    Transmits frame versions (answer :: answers) (.write frame answer :: events, result) := by
  cases transmits with
  | interrupted interruptions =>
      exact .interrupted (List.forall_mem_cons.mpr ⟨interruption, interruptions⟩)
  | accepted earlier interruptions complete =>
      exact .accepted (answer :: earlier)
        (List.forall_mem_cons.mpr ⟨interruption, interruptions⟩) complete
  | refused earlier interruptions final incomplete =>
      exact .refused (answer :: earlier) (List.forall_mem_cons.mpr ⟨interruption, interruptions⟩)
        final incomplete

end Transmits

theorem sendFrame_transmits (frame : List UInt8) (answers : List WriteAnswer) :
    Transmits frame [] answers (sendFrame frame answers) := by
  induction answers with
  | nil => exact .interrupted (by simp)
  | cons answer rest ih =>
      rw [sendFrame]
      split
      · next errno failed =>
        split_ifs with again
        · obtain ⟨rfl, running⟩ := again
          exact ih.cons ⟨failed, Bool.eq_false_iff.mpr running⟩
        · refine .refused [] (by simp) ?_ ?_
          · rintro ⟨interrupted, running⟩
            rw [failed] at interrupted
            exact again ⟨Except.error.inj interrupted, by simp [running]⟩
          · simp [failed]
      · next written accepted =>
        split_ifs with complete
        · exact .accepted [] (by simp) (complete ▸ accepted)
        · refine .refused [] (by simp) ?_ ?_
          · rintro ⟨interrupted, -⟩
            simp [accepted] at interrupted
          · simpa [accepted] using complete

theorem sendAndPublish_transmits (frame : List UInt8)
    (versions : Versions) (answers : List WriteAnswer) :
    Transmits frame versions answers (sendAndPublish frame versions answers) := by
  have sent := sendFrame_transmits frame answers
  rw [sendAndPublish]
  generalize sendFrame frame answers = outcome at sent
  cases sent with
  | interrupted interruptions => exact .interrupted interruptions
  | accepted earlier interruptions complete =>
      rw [List.map_nil, List.append_nil]
      exact .accepted earlier interruptions complete
  | refused earlier interruptions final incomplete =>
      exact .refused earlier interruptions final incomplete

/-! ## Handling -/

/-- What a reply to a command is: the list of a search that succeeds, with its versions, and a
status otherwise. -/
inductive Reply (environment : Environment) (directory : List UInt8) (command : WmtCommand) :
    List UInt8 → Versions → Prop
  | list {found : Found} {frame : List UInt8} {versions : Versions}
      (finds : Finds environment directory command found)
      (encodes : ListFrame command found frame) (publishes : found.Publishes versions) :
      Reply environment directory command frame versions
  | status {errno : Errno} {frame : List UInt8}
      (nothing : ¬∃ found, Finds environment directory command found)
      (encodes : StatusFrame command errno frame) : Reply environment directory command frame []

section Handle

variable (environment : Environment) (directory : List UInt8) {command : WmtCommand}

theorem take_overwrite {stack bytes : List UInt8} {size : Nat} (length : bytes.length = size) :
    (overwrite stack 0 bytes).take size = bytes := by
  rw [overwrite_zero, List.take_left' length]

/-- A search that succeeds is answered with its list. -/
theorem composeReply_found {found : Found} (decoded : Decoded command)
    (finds : Finds environment directory command found) :
    composeReply environment directory command =
      .ok ((listReply command found.kind found.records).bytes, found.versions) := by
  obtain ⟨session, transaction⟩ := decoded.bound
  have listable := finds.listable
  have short := listable.wellFormed.length_le
  have room : 40 + 264 * found.records.length ≤ wmtCmd2WriteMax := by
    calc
      _ ≤ 40 + 264 * 10 := by omega
      _ ≤ wmtCmd2WriteMax := by decide
  have encoded := (wmtReplyList_cases session transaction found.kind
    (some ⟨found.records, rfl⟩) ⟨environment.stack.bytes, wmtCmd2WriteMax,
      environment.stack.length_eq.ge⟩).resolve_right
        fun refused => refused.1 ⟨rfl, listable.wellFormed, room⟩
  unfold composeReply
  simp only [searchCommand_eq_ok_iff.mpr finds, encoded.2.2.2, Option.getD_some]
  exact congrArg (fun bytes => Except.ok (bytes, found.versions))
    (take_overwrite (length_listReply command found.kind found.records))

/-- Every other command is answered with a status. -/
theorem composeReply_notFound (decoded : Decoded command)
    (none : ¬∃ found, Finds environment directory command found) :
    ∃ errno : Errno, composeReply environment directory command =
      .ok ((replyHeaderOf command wmtCmd2Status 0 errno.result).bytes, []) := by
  obtain ⟨session, transaction⟩ := decoded.bound
  cases searched : searchCommand environment directory command with
  | ok found => exact absurd ⟨found, searchCommand_eq_ok_iff.mp searched⟩ none
  | error errno =>
      have value := errno.toInt_result
      have bounded := errno.bounded
      have encoded := (wmtReplyStatus_cases session transaction errno.result
        ⟨environment.stack.bytes, wmtCmd2WriteMax, environment.stack.length_eq.ge⟩).resolve_right
          fun refused => refused.1 ⟨by omega, by omega, show 32 ≤ wmtCmd2WriteMax by decide⟩
      refine ⟨errno, ?_⟩
      unfold composeReply
      simp only [searched, encoded.2.2.2, Option.getD_some]
      exact congrArg (fun bytes => Except.ok (bytes, []))
        (take_overwrite (WmtCmd2Header.length_bytes _))

/-- A reply to a command can always be composed. -/
theorem composeReply_reply (decoded : Decoded command) :
    ∃ frame versions, composeReply environment directory command = .ok (frame, versions) ∧
      Reply environment directory command frame versions := by
  by_cases search : ∃ found, Finds environment directory command found
  · obtain ⟨found, finds⟩ := search
    exact ⟨_, _, composeReply_found environment directory decoded finds,
      .list finds (finds.listable.listFrame command) found.publishes_versions⟩
  · obtain ⟨errno, composed⟩ := composeReply_notFound environment directory decoded search
    exact ⟨_, _, composed, .status search (statusFrame command errno)⟩

end Handle

/-- A command has one search result. -/
theorem Finds.unique {environment : Environment} {directory : List UInt8} {command : WmtCommand}
    {found other : Found} (finds : Finds environment directory command found)
    (finds' : Finds environment directory command other) : found = other :=
  Except.ok.inj
    ((searchCommand_eq_ok_iff.mpr finds).symm.trans (searchCommand_eq_ok_iff.mpr finds'))

/-- A command is answered with one frame, which carries its session and transaction and
is the only thing written; it is written again only after an interruption.  The frame is
the list of the search result, each record with the index, the address and the name that
the search has found, complete and in order, if the command is a search, the chip is known,
its version fits and the search succeeds; otherwise it is a status with an error.  The
versions of the search are published after the device has taken the whole list, and nothing
is published in any other case. -/
theorem command_reply (environment : Environment) (directory : List UInt8) (command : WmtCommand)
    (decoded : Decoded command) :
    ∃ frame versions,
      Transmits frame versions environment.writes
        (handleCommand environment directory command) ∧
      (∀ found, Finds environment directory command found →
        ListFrame command found frame ∧ found.Publishes versions) ∧
      ((¬∃ found, Finds environment directory command found) →
        (∃ errno, StatusFrame command errno frame) ∧ versions = []) := by
  obtain ⟨frame, versions, composed, reply⟩ :=
    composeReply_reply environment directory decoded
  refine ⟨frame, versions, ?_, ?_⟩
  · rw [handleCommand, composed]
    exact sendAndPublish_transmits _ _ _
  · cases reply with
    | list finds encodes publishes =>
        refine ⟨fun found finds' => ?_, fun nothing => absurd ⟨_, finds⟩ nothing⟩
        obtain rfl := finds.unique finds'
        exact ⟨encodes, publishes⟩
    | status nothing encodes =>
        exact ⟨fun found finds => absurd ⟨found, finds⟩ nothing, fun _ => ⟨⟨_, encodes⟩, rfl⟩⟩

/-- The two patches are searched for a supported chip, and the first `write` is interrupted. -/
def twoPatchesRun : Environment where
  chip := .ok 0x6755
  version := .ok 0x8a00
  search := .ofEntries [.failed .eintr, .upTo 9] twoPatches.entries
  writes := [⟨.error .eintr, false⟩, ⟨.ok 568, false⟩]
  stack := .zero _

/-- Both patches are listed in the order of the download, and the version of the first one is
published. -/
theorem command_reply_twoPatches :
    ∃ frame versions found,
      Transmits frame versions twoPatchesRun.writes
        (handleCommand twoPatchesRun (ascii "/vendor/firmware/")
          ⟨7, 9, .fill 256 (ascii "srh_patch")⟩) ∧
      ListFrame ⟨7, 9, .fill 256 (ascii "srh_patch")⟩ (.patches found) frame ∧
      (ListReply.decode frame).records.map (fun record => record.name.cString) =
        [ascii "ROMv2_lm_patch_1_0_hdr.bin", ascii "ROMv2_lm_patch_1_1_hdr.bin"] ∧
      (.patch, ascii "20180509150101a") ∈ versions ∧
      .publish .patch (ascii "20180509150101a") ∈
        (handleCommand twoPatchesRun (ascii "/vendor/firmware/")
          ⟨7, 9, .fill 256 (ascii "srh_patch")⟩).1 := by
  have decoded : Decoded ⟨7, 9, .fill 256 (ascii "srh_patch")⟩ :=
    ⟨commandFrame 7 9 (ascii "srh_patch"), 7, ⟨0, 0, .zero _⟩, rfl⟩
  obtain ⟨frame, versions, transmits, listed, -⟩ :=
    command_reply twoPatchesRun (ascii "/vendor/firmware/") _ decoded
  have worked : (wmtFirmwareSearch (some (ascii "/vendor/firmware/")) (UInt16.ofNat 0x8a00)
      twoPatchesRun.search (some .zero)).1 = .ok () := by decide +kernel
  have fields : (wmtFirmwareSearch (some (ascii "/vendor/firmware/")) (UInt16.ofNat 0x8a00)
      twoPatchesRun.search (some .zero)).2.map (fun found =>
        (found.patches.count, (found.patches.records ⟨0, by decide⟩).name.cString,
          (found.patches.records ⟨1, by decide⟩).name.cString,
          (found.versions ⟨0, by decide⟩).cString)) =
      some (2, ascii "ROMv2_lm_patch_1_0_hdr.bin", ascii "ROMv2_lm_patch_1_1_hdr.bin",
        ascii "20180509150101a") := by decide +kernel
  obtain ⟨found, result, fields⟩ := Option.map_eq_some_iff.mp fields
  simp only [Prod.mk.injEq] at fields
  obtain ⟨count, first, second, version⟩ := fields
  have finds : Finds twoPatchesRun (ascii "/vendor/firmware/")
      ⟨7, 9, .fill 256 (ascii "srh_patch")⟩ (.patches found) :=
    .patches rfl ⟨⟨_, rfl, .inl rfl⟩, rfl, by decide⟩ (Prod.ext worked result)
  obtain ⟨list, publishes⟩ := listed _ finds
  refine ⟨frame, versions, found, transmits, list, ?_, ?_, by decide +kernel⟩
  · have lists := list.listed.listsPatches
    have length := lists.length
    rw [count] at length
    obtain ⟨one, two, records⟩ := List.length_eq_two.mp length
    rw [records, List.map_cons, List.map_singleton,
      (lists.record ⟨0, by decide⟩ one (by rw [records]; rfl)).2.2,
      (lists.record ⟨1, by decide⟩ two (by rw [records]; rfl)).2.2]
    exact congrArg₂ (fun one two => [one, two]) first second
  · rw [publishes.values, ← version]
    exact .patch found

end K50sv1.WmtLauncher.Launcher
