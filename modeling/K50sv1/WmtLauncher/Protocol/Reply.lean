import Mathlib.Data.List.Range
import Mathlib.Data.Vector.Basic
import K50sv1.Data.BitSet
import K50sv1.WmtLauncher.Protocol.Command

/-!
# Reply frames

A reply is written straight into the caller's buffer.  `wmt_reply_list` checks all
records before it writes the first byte, keeping the indices it has met in a bit mask,
and then serializes them in a second pass.  The bytes written are the layout of a
`ListReply` whose names have been cleaned of what follows their terminator.
-/

namespace K50sv1.WmtLauncher.Protocol

open K50sv1.Data
open K50sv1.Data.Bytes

/-- The memory behind `frame`, of which the caller offers `capacity` bytes. -/
structure FrameBuffer where
  bytes : List UInt8
  capacity : Nat
  fits : capacity ≤ bytes.length
  deriving DecidableEq, Repr

/-! ## The functions -/

def replyHeader (command : WmtCommand) (kind length : UInt32) (result : Int32)
    (frame : List UInt8) : List UInt8 :=
  let frame := write32 frame 0 wmtCmd2Magic
  let frame := write16 frame 4 wmtCmd2Version
  let frame := write16 frame 6 kind.toUInt16
  let frame := write64 frame 8 command.session
  let frame := write64 frame 16 command.transaction
  let frame := write32 frame 24 length
  write32 frame 28 result.toUInt32

/-- The second component is what the memory behind `frame` holds afterwards. -/
def wmtReplyStatus (command : Option WmtCommand) (result : Int32) (frame : Option FrameBuffer) :
    Except Errno Nat × Option (List UInt8) :=
  match command, frame with
  | some command, some frame =>
      if command.session = 0 ∨ command.transaction = 0 ∨ 0 < result ∨ result < -4095 then
        (.error .einval, some frame.bytes)
      else if frame.capacity < wmtCmd2FrameHeaderSize then
        (.error .emsgsize, some frame.bytes)
      else
        (.ok wmtCmd2FrameHeaderSize,
          some (replyHeader command wmtCmd2Status 0 result frame.bytes))
  | _, frame => (.error .einval, frame.map FrameBuffer.bytes)

/-- The bit that stands for an index in the mask `seen`. -/
def recordSlot (kind index : UInt32) : Nat :=
  if kind = wmtCmd2PatchList then index.toNat - 1 else index.toNat

/-- The first loop of `wmt_reply_list`, over the records not checked yet. -/
def checkRecords (kind : UInt32) (count : Nat) :
    Nat → List WmtCmd2Record → Except Errno Unit
  | _, [] => .ok ()
  | seen, record :: rest =>
      let name := record.name.cString
      if kind = wmtCmd2PatchList ∧ (record.index = 0 ∨ count < record.index.toNat) then
        .error .einval
      else if kind ≠ wmtCmd2PatchList ∧ wmtCmd2RomMax ≤ record.index.toNat then
        .error .einval
      else if BitSet.has seen (recordSlot kind record.index) then
        .error .eexist
      else if name = [] ∨ name.length = 256 ∨ 0x2f ∈ name ∨ name = ascii "." ∨
          name = ascii ".." then
        .error .einval
      else
        checkRecords kind count (BitSet.insert seen (recordSlot kind record.index)) rest

def writeRecord (frame : List UInt8) (offset : Nat) (record : WmtCmd2Record) : List UInt8 :=
  let frame := write32 frame offset record.index
  let frame := overwrite frame (offset + 4) record.address.bytes
  let frame := overwrite frame (offset + 8) (List.replicate 256 0)
  overwrite frame (offset + 8) record.name.cString

/-- The second loop of `wmt_reply_list`, from its iteration `i` on. -/
def writeRecords (frame : List UInt8) (i : Nat) : List WmtCmd2Record → List UInt8
  | [] => frame
  | record :: rest =>
      writeRecords (writeRecord frame (40 + i * wmtCmd2RecordSize) record) (i + 1) rest

/-- The number of records a list may have. -/
def listMaximum (kind : UInt32) (count : Nat) : Except Errno Nat :=
  if kind = wmtCmd2PatchList then
    if count = 0 then .error .einval else .ok wmtCmd2PatchMax
  else if kind = wmtCmd2RomList then
    .ok wmtCmd2RomMax
  else
    .error .einval

/-- The records behind a pointer that may be null. -/
def recordArray {count : Nat} (records : Option (List.Vector WmtCmd2Record count)) :
    List WmtCmd2Record :=
  records.elim [] List.Vector.toList

def wmtReplyList (command : Option WmtCommand) (kind : UInt32) {count : Nat}
    (records : Option (List.Vector WmtCmd2Record count)) (frame : Option FrameBuffer) :
    Except Errno Nat × Option (List UInt8) :=
  match command, frame with
  | some command, some frame =>
      if command.session = 0 ∨ command.transaction = 0 ∨ (count ≠ 0 ∧ records = none) then
        (.error .einval, some frame.bytes)
      else
        match listMaximum kind count with
        | .error errno => (.error errno, some frame.bytes)
        | .ok maximum =>
            let length := 8 + count * wmtCmd2RecordSize
            if maximum < count then
              (.error .e2big, some frame.bytes)
            else if frame.capacity < wmtCmd2FrameHeaderSize + length then
              (.error .emsgsize, some frame.bytes)
            else
              match checkRecords kind count 0 (recordArray records) with
              | .error errno => (.error errno, some frame.bytes)
              | .ok () =>
                  let bytes := replyHeader command kind (UInt32.ofNat length) 0 frame.bytes
                  let bytes := write32 bytes 32 (UInt32.ofNat count)
                  let bytes := write32 bytes 36 0
                  (.ok (wmtCmd2FrameHeaderSize + length),
                    some (writeRecords bytes 0 (recordArray records)))
  | _, frame => (.error .einval, frame.map FrameBuffer.bytes)

/-! ## The bytes written -/

/-- The header a reply carries. -/
def replyHeaderOf (command : WmtCommand) (kind length : UInt32) (result : Int32) :
    WmtCmd2Header where
  magic := wmtCmd2Magic
  version := wmtCmd2Version
  kind := kind.toUInt16
  sessionId := command.session
  transactionId := command.transaction
  payloadLen := length
  result := result

theorem replyHeader_eq (command : WmtCommand) (kind length : UInt32) (result : Int32)
    {frame : List UInt8} (size : wmtCmd2FrameHeaderSize ≤ frame.length) :
    replyHeader command kind length result frame =
      overwrite frame 0 (replyHeaderOf command kind length result).bytes := by
  rw [wmtCmd2FrameHeaderSize] at size
  -- each field follows the one before it, so the copies grow into one
  have grow : ∀ {bytes more : List UInt8} {next : Nat}, next = bytes.length →
      overwrite (overwrite frame 0 bytes) next more = overwrite frame 0 (bytes ++ more) :=
    fun adjacent => overwrite_overwrite (Nat.zero_le _) (by rw [adjacent, Nat.zero_add])
  have grow64 : ∀ {bytes : List UInt8} {next : Nat} (value : UInt64), next = bytes.length →
      bytes.length ≤ 32 → write64 (overwrite frame 0 bytes) next value =
        overwrite frame 0 (bytes ++ bytesOf 8 value.toNat) := by
    intro bytes next value adjacent short
    have kept : (overwrite frame 0 bytes).length = frame.length := length_overwrite (by omega)
    rw [write64_eq value (by omega), grow adjacent]
  unfold replyHeader
  simp only [write32_eq, write16_eq]
  rw [grow (by simp), grow (by simp), grow64 _ (by simp) (by simp), grow64 _ (by simp) (by simp),
    grow (by simp), grow (by simp)]
  rfl

namespace WmtCmd2Record

/-- The record without what follows the terminator of its name. -/
def clean (record : WmtCmd2Record) : WmtCmd2Record :=
  { record with name := .fill 256 record.name.cString }

end WmtCmd2Record

theorem writeRecord_eq {frame : List UInt8} {offset : Nat} (record : WmtCmd2Record)
    (inside : offset + wmtCmd2RecordSize ≤ frame.length) :
    writeRecord frame offset record = overwrite frame offset record.clean.bytes := by
  rw [wmtCmd2RecordSize] at inside
  have addressLength := record.address.length_eq
  have nameShort := record.name.length_cString_le
  have start : (bytesOf 4 record.index.toNat ++ record.address.bytes).length = 8 := by
    simp [addressLength]
  have kept : (overwrite frame offset
      (bytesOf 4 record.index.toNat ++ record.address.bytes)).length = frame.length :=
    length_overwrite (by omega)
  have name : record.name.cString ++ (List.replicate 256 0).drop record.name.cString.length =
      record.clean.name.bytes := by
    rw [WmtCmd2Record.clean, Buffer.bytes_fill nameShort, List.drop_replicate]
  have joined : overwrite (write32 frame offset record.index) (offset + 4) record.address.bytes =
      overwrite frame offset (bytesOf 4 record.index.toNat ++ record.address.bytes) := by
    rw [write32_eq, overwrite_overwrite (by omega) (by rw [length_bytesOf])]
  unfold writeRecord
  dsimp only
  rw [joined, overwrite_start (by omega) (by rwa [List.length_replicate]), name,
    overwrite_overwrite (by omega) (by rw [start])]
  rfl

/-- The loop appends the records to what has been written. -/
theorem writeRecords_eq {frame done : List UInt8} {i : Nat} (records : List WmtCmd2Record)
    (position : done.length = 40 + i * wmtCmd2RecordSize)
    (inside : done.length + records.length * wmtCmd2RecordSize ≤ frame.length) :
    writeRecords (overwrite frame 0 done) i records =
      overwrite frame 0
        (done ++ (records.map WmtCmd2Record.clean).flatMap WmtCmd2Record.bytes) := by
  induction records generalizing done i with
  | nil => simp [writeRecords]
  | cons record rest ih =>
      rw [List.length_cons, Nat.add_mul, Nat.one_mul] at inside
      have room : 40 + i * wmtCmd2RecordSize + wmtCmd2RecordSize ≤
          (overwrite frame 0 done).length := by
        rw [length_overwrite (by omega)]
        omega
      have written : (done ++ record.clean.bytes).length = done.length + wmtCmd2RecordSize := by
        rw [List.length_append, WmtCmd2Record.length_bytes]
      rw [writeRecords, writeRecord_eq record room,
        overwrite_overwrite (Nat.zero_le _) (by rw [position, Nat.zero_add]), ih]
      · simp
      · rw [written, position, Nat.add_mul, Nat.one_mul, Nat.add_assoc]
      · rw [written]
        omega

/-- The list reply that `wmt_reply_list` sends. -/
def listReply (command : WmtCommand) (kind : UInt32) (records : List WmtCmd2Record) :
    ListReply where
  header := replyHeaderOf command kind
    (UInt32.ofNat (8 + records.length * wmtCmd2RecordSize)) 0
  count := UInt32.ofNat records.length
  reserved := 0
  records := records.map WmtCmd2Record.clean

/-- The two passes of `wmt_reply_list` lay out one list reply. -/
theorem writeList_eq (command : WmtCommand) (kind : UInt32) (records : List WmtCmd2Record)
    {frame : List UInt8} (room : 40 + records.length * wmtCmd2RecordSize ≤ frame.length) :
    writeRecords
        (write32 (write32 (replyHeader command kind
          (UInt32.ofNat (8 + records.length * wmtCmd2RecordSize)) 0 frame) 32
          (UInt32.ofNat records.length)) 36 0) 0 records =
      overwrite frame 0 (listReply command kind records).bytes := by
  have size : wmtCmd2FrameHeaderSize ≤ frame.length := by
    rw [wmtCmd2FrameHeaderSize]
    omega
  have headerLength := (listReply command kind records).header.length_bytes
  rw [wmtCmd2FrameHeaderSize] at headerLength
  have start : ((listReply command kind records).header.bytes ++
      bytesOf 4 (UInt32.ofNat records.length).toNat ++ bytesOf 4 (UInt32.toNat 0)).length = 40 := by
    simp only [List.length_append, headerLength, length_bytesOf]
  have withCount : write32 (overwrite frame 0 (listReply command kind records).header.bytes) 32
      (UInt32.ofNat records.length) =
        overwrite frame 0 ((listReply command kind records).header.bytes ++
          bytesOf 4 (UInt32.ofNat records.length).toNat) := by
    rw [write32_eq, overwrite_overwrite (Nat.zero_le _) (by omega)]
  have withReserved : write32 (overwrite frame 0 ((listReply command kind records).header.bytes ++
      bytesOf 4 (UInt32.ofNat records.length).toNat)) 36 0 =
        overwrite frame 0 ((listReply command kind records).header.bytes ++
          bytesOf 4 (UInt32.ofNat records.length).toNat ++ bytesOf 4 (UInt32.toNat 0)) := by
    rw [write32_eq, overwrite_overwrite (Nat.zero_le _)]
    rw [List.length_append, length_bytesOf, headerLength]
  rw [replyHeader_eq _ _ _ _ size]
  change writeRecords (write32 (write32 (overwrite frame 0
    (listReply command kind records).header.bytes) 32 _) 36 0) 0 records = _
  rw [withCount, withReserved]
  exact writeRecords_eq records start (by omega)

/-! ## The checks -/

/-- A terminated name of a file in a directory. -/
structure Basename (name : Buffer 256) : Prop where
  terminated : 0 ∈ name.bytes
  nonempty : name.cString ≠ []
  noSlash : 0x2f ∉ name.cString
  notHere : name.cString ≠ ascii "."
  notParent : name.cString ≠ ascii ".."

/-- The indices a list of the given kind and size may have. -/
def IndexInRange (kind : UInt32) (count : Nat) (index : UInt32) : Prop :=
  if kind = wmtCmd2PatchList then 1 ≤ index.toNat ∧ index.toNat ≤ count else index.toNat ≤ 4

/-- The records `wmt_reply_list` can be given. -/
structure WellFormedList (kind : UInt32) (records : List WmtCmd2Record) : Prop where
  size : kind = wmtCmd2PatchList ∧ 1 ≤ records.length ∧ records.length ≤ wmtCmd2PatchMax ∨
    kind = wmtCmd2RomList ∧ records.length ≤ wmtCmd2RomMax
  names : ∀ record ∈ records, Basename record.name
  indices : ∀ record ∈ records, IndexInRange kind records.length record.index
  distinct : (records.map WmtCmd2Record.index).Nodup

theorem basename_iff (name : Buffer 256) :
    Basename name ↔
      ¬(name.cString = [] ∨ name.cString.length = 256 ∨ 0x2f ∈ name.cString ∨
        name.cString = ascii "." ∨ name.cString = ascii "..") := by
  have full : name.cString.length ≠ 256 ↔ 0 ∈ name.bytes := by
    rw [← name.length_cString_lt_iff]
    have := name.length_cString_le
    omega
  simp only [not_or]
  constructor
  · intro basename
    exact ⟨basename.nonempty, full.mpr basename.terminated, basename.noSlash, basename.notHere,
      basename.notParent⟩
  · rintro ⟨nonempty, terminated, noSlash, notHere, notParent⟩
    exact ⟨full.mp terminated, nonempty, noSlash, notHere, notParent⟩

theorem indexInRange_iff (kind : UInt32) (count : Nat) (index : UInt32) :
    IndexInRange kind count index ↔
      ¬(kind = wmtCmd2PatchList ∧ (index = 0 ∨ count < index.toNat)) ∧
        ¬(kind ≠ wmtCmd2PatchList ∧ wmtCmd2RomMax ≤ index.toNat) := by
  have zero : index = 0 ↔ index.toNat = 0 := UInt32.toNat_inj.symm
  by_cases patch : kind = wmtCmd2PatchList
  · simp only [IndexInRange, patch, zero, if_true, true_and, ne_eq, not_true, false_and,
      not_false_iff, and_true]
    omega
  · simp only [IndexInRange, patch, wmtCmd2RomMax, if_false, false_and, ne_eq, not_false_iff,
      true_and]
    omega

/-- One iteration of the loop. -/
theorem checkRecords_cons {kind : UInt32} {count seen : Nat} (record : WmtCmd2Record)
    (rest : List WmtCmd2Record) :
    checkRecords kind count seen (record :: rest) = .ok () ↔
      IndexInRange kind count record.index ∧ Basename record.name ∧
        seen.testBit (recordSlot kind record.index) = false ∧
        checkRecords kind count (BitSet.insert seen (recordSlot kind record.index)) rest =
          .ok () := by
  rw [indexInRange_iff, basename_iff, checkRecords, BitSet.has_eq_testBit]
  split_ifs with patchIndex romIndex met name
  · simp [patchIndex]
  · simp [romIndex]
  · simp [met]
  · simp only [name, not_true_eq_false, false_and, and_false]
  · simp only [patchIndex, romIndex, name, not_false_iff, true_and, Bool.not_eq_true _ ▸ met]

/-- The loop accepts records that are in order and whose bits are new and distinct. -/
theorem checkRecords_eq_ok_iff {kind : UInt32} {count seen : Nat} (records : List WmtCmd2Record) :
    checkRecords kind count seen records = .ok () ↔
      (∀ record ∈ records, IndexInRange kind count record.index ∧ Basename record.name ∧
        seen.testBit (recordSlot kind record.index) = false) ∧
      (records.map fun record => recordSlot kind record.index).Nodup := by
  induction records generalizing seen with
  | nil => simp [checkRecords]
  | cons record rest ih =>
      rw [checkRecords_cons, ih]
      simp only [BitSet.testBit_insert, Bool.or_eq_false_iff, decide_eq_false_iff_not,
        List.forall_mem_cons, List.map_cons, List.nodup_cons, List.mem_map, not_exists, not_and]
      constructor
      · rintro ⟨index, name, fresh, others, distinct⟩
        refine ⟨⟨⟨index, name, fresh⟩, fun other member => ?_⟩, fun other member same => ?_,
          distinct⟩
        · obtain ⟨otherIndex, otherName, otherFresh, -⟩ := others other member
          exact ⟨otherIndex, otherName, otherFresh⟩
        · exact (others other member).2.2.2 same.symm
      · rintro ⟨⟨⟨index, name, fresh⟩, others⟩, new, distinct⟩
        refine ⟨index, name, fresh, fun other member => ?_, distinct⟩
        obtain ⟨otherIndex, otherName, otherFresh⟩ := others other member
        exact ⟨otherIndex, otherName, otherFresh, fun same => new other member same.symm⟩

/-- Among indices in range, different ones have different bits. -/
theorem recordSlot_inj {kind first second : UInt32} {count : Nat}
    (firstRange : IndexInRange kind count first) (secondRange : IndexInRange kind count second)
    (same : recordSlot kind first = recordSlot kind second) : first = second := by
  apply UInt32.toNat_inj.mp
  unfold IndexInRange at firstRange secondRange
  unfold recordSlot at same
  split_ifs at firstRange secondRange same <;> omega

theorem nodup_recordSlot_iff {kind : UInt32} {count : Nat} {records : List WmtCmd2Record}
    (indices : ∀ record ∈ records, IndexInRange kind count record.index) :
    (records.map fun record => recordSlot kind record.index).Nodup ↔
      (records.map WmtCmd2Record.index).Nodup := by
  constructor
  · intro slots
    have mapped : (records.map WmtCmd2Record.index).map (recordSlot kind) =
        records.map fun record => recordSlot kind record.index := by
      rw [List.map_map]
      rfl
    exact List.Nodup.of_map (recordSlot kind) (mapped ▸ slots)
  · intro distinct
    rw [List.Nodup, List.pairwise_map] at distinct ⊢
    apply distinct.imp_of_mem
    intro first second firstMember secondMember different same
    exact different (recordSlot_inj (indices first firstMember) (indices second secondMember) same)

theorem listMaximum_eq_ok_iff {kind : UInt32} {count maximum : Nat} :
    listMaximum kind count = .ok maximum ↔
      kind = wmtCmd2PatchList ∧ count ≠ 0 ∧ maximum = wmtCmd2PatchMax ∨
        kind = wmtCmd2RomList ∧ maximum = wmtCmd2RomMax := by
  unfold listMaximum
  split_ifs with patch empty rom
  · simp [patch, empty, wmtCmd2PatchList, wmtCmd2RomList]
  · simp [patch, empty, wmtCmd2PatchList, wmtCmd2RomList, eq_comm]
  · simp [rom, wmtCmd2PatchList, wmtCmd2RomList, eq_comm]
  · simp [patch, rom]

/-- The checks that precede the first write are those of a well-formed list. -/
theorem wellFormedList_iff {kind : UInt32} {records : List WmtCmd2Record} :
    WellFormedList kind records ↔
      (∃ maximum, listMaximum kind records.length = .ok maximum ∧ records.length ≤ maximum) ∧
        checkRecords kind records.length 0 records = .ok () := by
  rw [checkRecords_eq_ok_iff]
  simp only [Nat.zero_testBit, and_true]
  constructor
  · intro wellFormed
    refine ⟨?_,
      fun record member => ⟨wellFormed.indices record member, wellFormed.names record member⟩,
      (nodup_recordSlot_iff wellFormed.indices).mpr wellFormed.distinct⟩
    rcases wellFormed.size with ⟨patch, nonempty, bounded⟩ | ⟨rom, bounded⟩
    · exact ⟨_, listMaximum_eq_ok_iff.mpr (.inl ⟨patch, by omega, rfl⟩), bounded⟩
    · exact ⟨_, listMaximum_eq_ok_iff.mpr (.inr ⟨rom, rfl⟩), bounded⟩
  · rintro ⟨⟨maximum, known, bounded⟩, each, distinct⟩
    refine ⟨?_, fun record member => (each record member).2,
      fun record member => (each record member).1,
      (nodup_recordSlot_iff fun record member => (each record member).1).mp distinct⟩
    rcases listMaximum_eq_ok_iff.mp known with ⟨patch, nonempty, rfl⟩ | ⟨rom, rfl⟩
    · exact .inl ⟨patch, Nat.one_le_iff_ne_zero.mpr nonempty, bounded⟩
    · exact .inr ⟨rom, bounded⟩

/-- A null pointer is an array only of size zero. -/
theorem length_recordArray_eq_iff {count : Nat}
    (records : Option (List.Vector WmtCmd2Record count)) :
    (recordArray records).length = count ↔ ¬(count ≠ 0 ∧ records = none) := by
  cases records with
  | none => simp [recordArray, eq_comm]
  | some records => simp [recordArray]

/-- `wmt_reply_list` either finds everything in order and lays out the reply, or returns
an error and leaves the frame alone. -/
theorem wmtReplyList_cases {command : WmtCommand} (session : command.session ≠ 0)
    (transaction : command.transaction ≠ 0) (kind : UInt32) {count : Nat}
    (records : Option (List.Vector WmtCmd2Record count)) (frame : FrameBuffer) :
    ((recordArray records).length = count ∧ WellFormedList kind (recordArray records) ∧
        40 + 264 * count ≤ frame.capacity ∧
        wmtReplyList (some command) kind records (some frame) =
          (.ok (40 + 264 * count),
            some (overwrite frame.bytes 0 (listReply command kind (recordArray records)).bytes))) ∨
      (¬((recordArray records).length = count ∧ WellFormedList kind (recordArray records) ∧
          40 + 264 * count ≤ frame.capacity) ∧
        ∃ errno, wmtReplyList (some command) kind records (some frame) =
          (.error errno, some frame.bytes)) := by
  by_cases counted : (recordArray records).length = count
  case neg =>
    right
    refine ⟨fun accepted => counted accepted.1, .einval, ?_⟩
    have null := not_not.mp (mt (length_recordArray_eq_iff records).mpr counted)
    rw [wmtReplyList, if_pos (.inr (.inr null))]
  have fits := frame.fits
  have readable := (length_recordArray_eq_iff records).mp counted
  have size : wmtCmd2FrameHeaderSize + (8 + count * wmtCmd2RecordSize) = 40 + 264 * count := by
    rw [wmtCmd2FrameHeaderSize, wmtCmd2RecordSize]
    omega
  rw [wellFormedList_iff, counted]
  simp only [wmtReplyList, session, transaction, readable, or_false, if_false, true_and]
  rw [size]
  split
  case h_1 errno refused =>
    right
    refine ⟨?_, errno, rfl⟩
    rintro ⟨⟨⟨maximum, known, -⟩, -⟩, -⟩
    rw [refused] at known
    contradiction
  case h_2 maximum known =>
    split_ifs with tooMany tooSmall
    · right
      refine ⟨?_, _, rfl⟩
      rintro ⟨⟨⟨maximum', known', bounded⟩, -⟩, -⟩
      rw [known] at known'
      cases known'
      omega
    · right
      exact ⟨fun accepted => absurd accepted.2 (Nat.not_le.mpr tooSmall), _, rfl⟩
    split
    case h_1 errno refused =>
      right
      refine ⟨?_, errno, rfl⟩
      rintro ⟨⟨-, accepted⟩, -⟩
      rw [refused] at accepted
      contradiction
    case h_2 accepted =>
      left
      have room : 40 + (recordArray records).length * wmtCmd2RecordSize ≤ frame.bytes.length := by
        rw [counted, wmtCmd2RecordSize]
        omega
      have written := writeList_eq command kind (recordArray records) room
      rw [counted] at written
      refine ⟨⟨⟨maximum, known, Nat.not_lt.mp tooMany⟩, accepted⟩, Nat.not_lt.mp tooSmall, ?_⟩
      rw [written]

theorem wmtReplyStatus_cases {command : WmtCommand} (session : command.session ≠ 0)
    (transaction : command.transaction ≠ 0) (result : Int32) (frame : FrameBuffer) :
    (-4095 ≤ result.toInt ∧ result.toInt ≤ 0 ∧ 32 ≤ frame.capacity ∧
        wmtReplyStatus (some command) result (some frame) =
          (.ok 32, some (overwrite frame.bytes 0
            (replyHeaderOf command wmtCmd2Status 0 result).bytes))) ∨
      (¬(-4095 ≤ result.toInt ∧ result.toInt ≤ 0 ∧ 32 ≤ frame.capacity) ∧
        ∃ errno, wmtReplyStatus (some command) result (some frame) =
          (.error errno, some frame.bytes)) := by
  have fits := frame.fits
  have high : 0 < result ↔ 0 < result.toInt := Int32.lt_iff_toInt_lt
  have low : result < -4095 ↔ result.toInt < -4095 := Int32.lt_iff_toInt_lt
  have checks : wmtReplyStatus (some command) result (some frame) =
      if 0 < result.toInt ∨ result.toInt < -4095 then (.error .einval, some frame.bytes)
      else if frame.capacity < 32 then (.error .emsgsize, some frame.bytes)
      else (.ok 32, some (replyHeader command wmtCmd2Status 0 result frame.bytes)) := by
    simp only [wmtReplyStatus, session, transaction, false_or, high, low]
    rfl
  rw [checks]
  split_ifs with outside tooSmall
  · exact .inr ⟨by omega, _, rfl⟩
  · exact .inr ⟨by omega, _, rfl⟩
  · left
    refine ⟨by omega, by omega, by omega, ?_⟩
    rw [replyHeader_eq command wmtCmd2Status 0 result ((Nat.not_lt.mp tooSmall).trans fits)]

/-! ## Round trip -/

/-- A list has been written to `after`, over what was `before`: a decoder of the layout
reads it back. -/
structure ListEncoded (command : WmtCommand) (kind : UInt32) (records : List WmtCmd2Record)
    (size : Nat) (before after : List UInt8) : Prop where
  magic : (ListReply.decode after).header.magic = wmtCmd2Magic
  version : (ListReply.decode after).header.version = wmtCmd2Version
  kind_eq : (ListReply.decode after).header.kind.toUInt32 = kind
  session : (ListReply.decode after).header.sessionId = command.session
  transaction : (ListReply.decode after).header.transactionId = command.transaction
  payload : (ListReply.decode after).header.payloadLen.toNat = size - 32
  result : (ListReply.decode after).header.result = 0
  count : (ListReply.decode after).count.toNat = records.length
  reserved : (ListReply.decode after).reserved = 0
  records_eq : List.Forall₂
    (fun sent given : WmtCmd2Record => sent.index = given.index ∧ sent.address = given.address ∧
      sent.name.bytes = given.name.cString ++ List.replicate (256 - given.name.cString.length) 0)
    (ListReply.decode after).records records
  length : after.length = before.length
  untouched : after.drop size = before.drop size

/-- A status has been written to `after`, over what was `before`. -/
structure StatusEncoded (command : WmtCommand) (result : Int32) (size : Nat)
    (before after : List UInt8) : Prop where
  magic : (WmtCmd2Header.decode after).magic = wmtCmd2Magic
  version : (WmtCmd2Header.decode after).version = wmtCmd2Version
  kind : (WmtCmd2Header.decode after).kind.toUInt32 = wmtCmd2Status
  session : (WmtCmd2Header.decode after).sessionId = command.session
  transaction : (WmtCmd2Header.decode after).transactionId = command.transaction
  payload : (WmtCmd2Header.decode after).payloadLen.toNat = size - 32
  result_eq : (WmtCmd2Header.decode after).result = result
  length : after.length = before.length
  untouched : after.drop size = before.drop size

theorem length_listReply (command : WmtCommand) (kind : UInt32) (records : List WmtCmd2Record) :
    (listReply command kind records).bytes.length = 40 + 264 * records.length := by
  rw [ListReply.length_bytes, listReply, List.length_map, wmtCmd2RecordSize, Nat.mul_comm]

namespace WellFormedList

variable {kind : UInt32} {records : List WmtCmd2Record}

theorem length_le (wellFormed : WellFormedList kind records) : records.length ≤ 10 := by
  rcases wellFormed.size with ⟨-, -, bounded⟩ | ⟨-, bounded⟩
  · exact bounded
  · exact bounded.trans (by decide)

theorem toNat_length (wellFormed : WellFormedList kind records) :
    (UInt32.ofNat records.length).toNat = records.length :=
  UInt32.toNat_ofNat_of_lt' (Nat.lt_of_le_of_lt wellFormed.length_le (by decide))

/-- The decoder of the layout reads a list reply back. -/
theorem decode_listReply (wellFormed : WellFormedList kind records) (command : WmtCommand)
    (rest : List UInt8) :
    ListReply.decode ((listReply command kind records).bytes ++ rest) =
      listReply command kind records := by
  apply ListReply.decode_bytes
  rw [listReply, List.length_map]
  exact wellFormed.toNat_length

theorem kind_toUInt16 (wellFormed : WellFormedList kind records) :
    kind.toUInt16.toUInt32 = kind := by
  rcases wellFormed.size with ⟨rfl, -⟩ | ⟨rfl, -⟩ <;> rfl

end WellFormedList

theorem WellFormedList.listEncoded {kind : UInt32} {records : List WmtCmd2Record}
    (wellFormed : WellFormedList kind records) (command : WmtCommand) {frame : List UInt8}
    (room : 40 + 264 * records.length ≤ frame.length) :
    ListEncoded command kind records (40 + 264 * records.length) frame
      (overwrite frame 0 (listReply command kind records).bytes) := by
  have short := wellFormed.length_le
  have written := length_listReply command kind records
  have decoded : ListReply.decode (overwrite frame 0 (listReply command kind records).bytes) =
      listReply command kind records := by
    rw [overwrite_zero, wellFormed.decode_listReply]
  constructor
  all_goals try rw [decoded]
  · rfl
  · rfl
  · exact wellFormed.kind_toUInt16
  · rfl
  · rfl
  · change (UInt32.ofNat (8 + records.length * wmtCmd2RecordSize)).toNat = _
    rw [wmtCmd2RecordSize, UInt32.toNat_ofNat_of_lt']
    · omega
    · rw [UInt32.size]
      omega
  · rfl
  · exact wellFormed.toNat_length
  · rfl
  · rw [listReply, List.forall₂_map_left_iff]
    apply List.forall₂_same.mpr
    intro record _
    exact ⟨rfl, rfl, Buffer.bytes_fill record.name.length_cString_le⟩
  · exact length_overwrite (by omega)
  · rw [overwrite_zero, List.drop_left' written, written]

theorem statusEncoded (command : WmtCommand) (result : Int32) {frame : List UInt8}
    (room : 32 ≤ frame.length) :
    StatusEncoded command result 32 frame
      (overwrite frame 0 (replyHeaderOf command wmtCmd2Status 0 result).bytes) := by
  have written := (replyHeaderOf command wmtCmd2Status 0 result).length_bytes
  rw [wmtCmd2FrameHeaderSize] at written
  have decoded : WmtCmd2Header.decode
      (overwrite frame 0 (replyHeaderOf command wmtCmd2Status 0 result).bytes) =
        replyHeaderOf command wmtCmd2Status 0 result := by
    rw [overwrite_zero, WmtCmd2Header.decode_bytes]
  constructor
  case length => exact length_overwrite (by omega)
  case untouched => rw [overwrite_zero, List.drop_left' written, written]
  all_goals rw [decoded]; rfl

/-- As many distinct indices as there are numbers in their range are all of them. -/
theorem WellFormedList.perm_range {records : List WmtCmd2Record}
    (wellFormed : WellFormedList wmtCmd2PatchList records) :
    (records.map fun record => record.index.toNat).Perm (List.range' 1 records.length) := by
  have distinct : (records.map fun record => record.index.toNat).Nodup := by
    have mapped := wellFormed.distinct.map (f := UInt32.toNat) fun _ _ => UInt32.toNat_inj.mp
    rwa [List.map_map] at mapped
  have included : (records.map fun record => record.index.toNat) ⊆
      List.range' 1 records.length := by
    intro index member
    obtain ⟨record, present, rfl⟩ := List.mem_map.mp member
    have bounds := wellFormed.indices record present
    rw [IndexInRange, if_pos rfl] at bounds
    rw [List.mem_range'_1]
    omega
  apply (List.subperm_of_subset distinct included).perm_of_length_le
  rw [List.length_range', List.length_map]

/-- Both encoders are atomic and read back.  A list is sent exactly if it is well-formed
and fits; the decoder of the layout then finds every field and every record, the names
followed by zero bytes only, and the bytes behind the frame are untouched.  A patch
list names each download position once.  A status is sent exactly if it is a negated
error number or zero.  A failure leaves the frame alone. -/
theorem reply_encoders (command : WmtCommand) (session : command.session ≠ 0)
    (transaction : command.transaction ≠ 0) (frame : FrameBuffer) :
    (∀ (kind : UInt32) (count : Nat) (records : Option (List.Vector WmtCmd2Record count)),
      let reply := wmtReplyList (some command) kind records (some frame)
      ((∃ size, reply.1 = .ok size) ↔
        (recordArray records).length = count ∧ WellFormedList kind (recordArray records) ∧
          40 + 264 * count ≤ frame.capacity) ∧
      (∀ size, reply.1 = .ok size →
        size = 40 + 264 * count ∧
        (∃ after, reply.2 = some after ∧
          ListEncoded command kind (recordArray records) size frame.bytes after) ∧
        (kind = wmtCmd2PatchList →
          ((recordArray records).map fun record => record.index.toNat).Perm
            (List.range' 1 count))) ∧
      ∀ errno, reply.1 = .error errno → reply.2 = some frame.bytes) ∧
    ∀ result : Int32,
      let reply := wmtReplyStatus (some command) result (some frame)
      ((∃ size, reply.1 = .ok size) ↔
        -4095 ≤ result.toInt ∧ result.toInt ≤ 0 ∧ 32 ≤ frame.capacity) ∧
      (∀ size, reply.1 = .ok size →
        ∃ after, reply.2 = some after ∧
          StatusEncoded command result size frame.bytes after) ∧
      ∀ errno, reply.1 = .error errno → reply.2 = some frame.bytes := by
  have fits := frame.fits
  constructor
  · intro kind count records
    rcases wmtReplyList_cases session transaction kind records frame with
      ⟨counted, wellFormed, room, sent⟩ | ⟨refused, errno, failed⟩
    · have encoded := wellFormed.listEncoded command (by omega : _ ≤ frame.bytes.length)
      rw [counted] at encoded
      simp only [sent]
      refine ⟨⟨fun _ => ⟨counted, wellFormed, room⟩, fun _ => ⟨_, rfl⟩⟩, ?_, ?_⟩
      · rintro size ⟨⟩
        refine ⟨rfl, ⟨_, rfl, encoded⟩, ?_⟩
        rintro rfl
        have complete := wellFormed.perm_range
        rwa [counted] at complete
      · rintro errno ⟨⟩
    · simp only [failed]
      refine ⟨⟨?_, fun accepted => absurd accepted refused⟩, ?_, fun _ _ => trivial⟩
      · rintro ⟨size, ⟨⟩⟩
      · rintro size ⟨⟩
  · intro result
    rcases wmtReplyStatus_cases session transaction result frame with
      ⟨low, high, room, sent⟩ | ⟨refused, errno, failed⟩
    · simp only [sent]
      refine ⟨⟨fun _ => ⟨low, high, room⟩, fun _ => ⟨_, rfl⟩⟩, ?_, ?_⟩
      · rintro size ⟨⟩
        exact ⟨_, rfl, statusEncoded command result (room.trans fits)⟩
      · rintro errno ⟨⟩
    · simp only [failed]
      refine ⟨⟨?_, fun accepted => absurd accepted refused⟩, ?_, fun _ _ => trivial⟩
      · rintro ⟨size, ⟨⟩⟩
      · rintro size ⟨⟩

/-- Two patches, the second one first. -/
def twoRecords : List WmtCmd2Record :=
  [⟨2, .fill 4 [0, 6, 0, 0], .fill 256 (ascii "ROMv2_lm_patch_1_1_hdr.bin")⟩,
    ⟨1, .fill 4 [0, 9, 0, 0xf0], .fill 256 (ascii "ROMv2_lm_patch_1_0_hdr.bin")⟩]

/-- An array that is one byte longer than what may be written to it. -/
def longerFrame (capacity : Nat) : FrameBuffer where
  bytes := List.replicate (capacity + 1) 0xff
  capacity
  fits := Nat.le_of_lt (Nat.lt_of_lt_of_eq capacity.lt_succ_self List.length_replicate.symm)

/-- They are encoded, and the last byte of the array is left alone. -/
theorem reply_encoders_twoRecords :
    ∃ after, (wmtReplyList (some ⟨7, 9, .zero _⟩) wmtCmd2PatchList
        (some (⟨twoRecords, rfl⟩ : List.Vector _ 2)) (some (longerFrame 568))).2 = some after ∧
      ListEncoded ⟨7, 9, .zero _⟩ wmtCmd2PatchList twoRecords 568 (longerFrame 568).bytes after ∧
      (twoRecords.map fun record => record.index.toNat).Perm [1, 2] := by
  have sent : (wmtReplyList (some ⟨7, 9, .zero _⟩) wmtCmd2PatchList
      (some (⟨twoRecords, rfl⟩ : List.Vector _ 2)) (some (longerFrame 568))).1 = .ok 568 := by
    decide +kernel
  obtain ⟨-, ⟨after, written, encoded⟩, complete⟩ :=
    ((reply_encoders ⟨7, 9, .zero _⟩ (by decide) (by decide) _).1 wmtCmd2PatchList 2 _).2.1 568 sent
  exact ⟨after, written, encoded, complete rfl⟩

end K50sv1.WmtLauncher.Protocol
