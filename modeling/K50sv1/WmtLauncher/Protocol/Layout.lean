import K50sv1.Data.Bytes
import K50sv1.WmtLauncher.Core

/-!
# The wire layout of the command broker

Frames of the version 2 command broker start with a header of 32 bytes; a list reply
continues with a count, a reserved word and records of 264 bytes.  All numbers are
little-endian.  This file gives the layout as `mtk_wmt_cmd.h` declares it, together
with a decoder for each structure.  The functions of `protocol.c` that read and write
numbers are shown to agree with it.
-/

namespace K50sv1.WmtLauncher.Protocol

open K50sv1.Data.Bytes

/-! ## Constants of the interface -/

def wmtCmd2Magic : UInt32 := 0x32544d57

def wmtCmd2Version : UInt16 := 2

def wmtCmd2CommandMax : Nat := 255

def wmtCmd2PatchMax : Nat := 10

def wmtCmd2RomMax : Nat := 5

def wmtCmd2FrameHeaderSize : Nat := 32

def wmtCmd2RecordSize : Nat := 264

def wmtCmd2WriteMax : Nat := 32 + 8 + wmtCmd2PatchMax * wmtCmd2RecordSize

/-! The values of `enum wmt_cmd2_kind`. -/

def wmtCmd2Command : UInt32 := 1

def wmtCmd2Status : UInt32 := 2

def wmtCmd2PatchList : UInt32 := 3

def wmtCmd2RomList : UInt32 := 4

/-! ## Numbers -/

def read16 (data : List UInt8) : UInt16 :=
  (data.getD 0 0).toUInt16 ||| (data.getD 1 0).toUInt16 <<< 8

def read32 (data : List UInt8) : UInt32 :=
  (data.getD 0 0).toUInt32 ||| (data.getD 1 0).toUInt32 <<< 8 |||
    (data.getD 2 0).toUInt32 <<< 16 ||| (data.getD 3 0).toUInt32 <<< 24

def read64 (data : List UInt8) : UInt64 :=
  (read32 data).toUInt64 ||| (read32 (data.drop 4)).toUInt64 <<< 32

def write16 (memory : List UInt8) (offset : Nat) (value : UInt16) : List UInt8 :=
  overwrite memory offset [value.toUInt8, (value >>> 8).toUInt8]

def write32 (memory : List UInt8) (offset : Nat) (value : UInt32) : List UInt8 :=
  overwrite memory offset
    ((List.range 4).map fun i => (value >>> UInt32.ofNat (8 * i)).toUInt8)

def write64 (memory : List UInt8) (offset : Nat) (value : UInt64) : List UInt8 :=
  write32 (write32 memory offset value.toUInt32) (offset + 4) (value >>> 32).toUInt32

/-- Bytes that do not overlap can be or-ed together. -/
theorem or_shiftLeft {low high width : Nat} (small : low < 2 ^ width) :
    low ||| high <<< width = low + 2 ^ width * high := by
  rw [Nat.or_comm, ← Nat.shiftLeft_add_eq_or_of_lt small, Nat.shiftLeft_eq, Nat.mul_comm,
    Nat.add_comm]

/-- No bit of a byte is lost in a shift inside a word. -/
theorem byte_shiftLeft (byte : UInt8) {shift width : Nat} (inside : shift + 8 ≤ width) :
    byte.toNat <<< shift % 2 ^ width = byte.toNat <<< shift := by
  apply Nat.mod_eq_of_lt
  calc
    byte.toNat <<< shift < 2 ^ 8 * 2 ^ shift := by
      rw [Nat.shiftLeft_eq]
      exact Nat.mul_lt_mul_of_pos_right byte.toNat_lt (Nat.two_pow_pos shift)
    _ = 2 ^ (shift + 8) := by rw [← Nat.pow_add, Nat.add_comm]
    _ ≤ 2 ^ width := Nat.pow_le_pow_right (by decide) inside

theorem read16_toNat {data : List UInt8} (size : 2 ≤ data.length) :
    (read16 data).toNat = field data 0 2 := by
  match data, size with
  | a :: b :: rest, _ =>
      have shifted : b.toNat <<< (UInt16.toNat 8 % 16) % 2 ^ 16 = b.toNat <<< 8 :=
        byte_shiftLeft b (by decide)
      simp only [read16, List.getD_cons_zero, List.getD_cons_succ, UInt16.toNat_or,
        UInt16.toNat_shiftLeft, UInt8.toNat_toUInt16, shifted, or_shiftLeft a.toNat_lt]
      simp [field]

theorem read32_toNat {data : List UInt8} (size : 4 ≤ data.length) :
    (read32 data).toNat = field data 0 4 := by
  match data, size with
  | a :: b :: c :: d :: rest, _ =>
      have second : b.toNat <<< (UInt32.toNat 8 % 32) % 2 ^ 32 = b.toNat <<< 8 :=
        byte_shiftLeft b (by decide)
      have third : c.toNat <<< (UInt32.toNat 16 % 32) % 2 ^ 32 = c.toNat <<< 16 :=
        byte_shiftLeft c (by decide)
      have fourth : d.toNat <<< (UInt32.toNat 24 % 32) % 2 ^ 32 = d.toNat <<< 24 :=
        byte_shiftLeft d (by decide)
      have two : a.toNat + 2 ^ 8 * b.toNat < 2 ^ 16 := by
        have := a.toNat_lt
        have := b.toNat_lt
        omega
      have three : a.toNat + 2 ^ 8 * b.toNat + 2 ^ 16 * c.toNat < 2 ^ 24 := by
        have := c.toNat_lt
        omega
      simp only [read32, List.getD_cons_zero, List.getD_cons_succ, UInt32.toNat_or,
        UInt32.toNat_shiftLeft, UInt8.toNat_toUInt32, second, third, fourth,
        or_shiftLeft a.toNat_lt, or_shiftLeft two, or_shiftLeft three]
      simp only [field, List.drop_zero, List.take_succ_cons, List.take_zero, littleEndian_cons,
        littleEndian_nil]
      omega

theorem read64_toNat {data : List UInt8} (size : 8 ≤ data.length) :
    (read64 data).toNat = field data 0 8 := by
  have low : (read32 data).toNat = field data 0 4 := read32_toNat (by omega)
  have high : (read32 (data.drop 4)).toNat = field (data.drop 4) 0 4 :=
    read32_toNat (by rw [List.length_drop]; omega)
  have split : data.take 8 = data.take 4 ++ (data.drop 4).take 4 := by
    rw [← List.take_add]
  have lowLength : (data.take 4).length = 4 := by
    rw [List.length_take]
    omega
  have lowLt := (read32 data).toNat_lt
  have highLt := (read32 (data.drop 4)).toNat_lt
  have shifted : (read32 (data.drop 4)).toNat <<< (UInt64.toNat 32 % 64) % 2 ^ 64 =
      (read32 (data.drop 4)).toNat <<< 32 := by
    apply Nat.mod_eq_of_lt
    change (read32 (data.drop 4)).toNat <<< 32 < 2 ^ 64
    rw [Nat.shiftLeft_eq]
    omega
  rw [read64, UInt64.toNat_or, UInt64.toNat_shiftLeft, UInt32.toNat_toUInt64,
    UInt32.toNat_toUInt64, shifted, or_shiftLeft lowLt, low, high, field, field, field,
    List.drop_zero, List.drop_zero, split, littleEndian_append, lowLength]
  rfl

theorem write16_eq (memory : List UInt8) (offset : Nat) (value : UInt16) :
    write16 memory offset value = overwrite memory offset (bytesOf 2 value.toNat) := by
  have low : value.toUInt8 = UInt8.ofNat value.toNat := rfl
  have high : (value >>> 8).toUInt8 = UInt8.ofNat (value.toNat >>> 8) := rfl
  rw [write16, low, high]
  rfl

theorem write32_eq (memory : List UInt8) (offset : Nat) (value : UInt32) :
    write32 memory offset value = overwrite memory offset (bytesOf 4 value.toNat) := by
  have bytes : ∀ i ∈ List.range 4,
      (value >>> UInt32.ofNat (8 * i)).toUInt8 = UInt8.ofNat (value.toNat >>> (8 * i)) := by
    intro i member
    have small : (UInt32.ofNat (8 * i)).toNat % 32 = 8 * i := by
      have := List.mem_range.mp member
      simp only [UInt32.toNat_ofNat']
      omega
    apply UInt8.toNat_inj.mp
    rw [UInt32.toNat_toUInt8, UInt32.toNat_shiftRight, small, UInt8.toNat_ofNat']
  rw [write32, List.map_congr_left bytes]
  rfl

theorem write64_eq {memory : List UInt8} {offset : Nat} (value : UInt64)
    (inside : offset ≤ memory.length) :
    write64 memory offset value = overwrite memory offset (bytesOf 8 value.toNat) := by
  have low : bytesOf 4 value.toUInt32.toNat = bytesOf 4 value.toNat := bytesOf_mod 4 value.toNat
  have high : bytesOf 4 (value >>> 32).toUInt32.toNat = bytesOf 4 (value.toNat >>> 32) :=
    bytesOf_mod 4 (value.toNat >>> 32)
  rw [write64, write32_eq, write32_eq, low, high, bytesOf_add 4 4 value.toNat]
  exact overwrite_overwrite inside (by rw [length_bytesOf])

/-! ## The header -/

/-- `struct wmt_cmd2_header`. -/
@[ext]
structure WmtCmd2Header where
  magic : UInt32
  version : UInt16
  kind : UInt16
  sessionId : UInt64
  transactionId : UInt64
  payloadLen : UInt32
  result : Int32
  deriving DecidableEq, Repr

namespace WmtCmd2Header

def bytes (header : WmtCmd2Header) : List UInt8 :=
  bytesOf 4 header.magic.toNat ++ bytesOf 2 header.version.toNat ++
    bytesOf 2 header.kind.toNat ++ bytesOf 8 header.sessionId.toNat ++
    bytesOf 8 header.transactionId.toNat ++ bytesOf 4 header.payloadLen.toNat ++
    bytesOf 4 header.result.toUInt32.toNat

def decode (frame : List UInt8) : WmtCmd2Header where
  magic := UInt32.ofNat (field frame 0 4)
  version := UInt16.ofNat (field frame 4 2)
  kind := UInt16.ofNat (field frame 6 2)
  sessionId := UInt64.ofNat (field frame 8 8)
  transactionId := UInt64.ofNat (field frame 16 8)
  payloadLen := UInt32.ofNat (field frame 24 4)
  result := (UInt32.ofNat (field frame 28 4)).toInt32

@[simp]
theorem length_bytes (header : WmtCmd2Header) :
    header.bytes.length = wmtCmd2FrameHeaderSize := by
  simp [bytes, wmtCmd2FrameHeaderSize]

/-- The decoder reads back what was laid out. -/
@[simp]
theorem decode_bytes (header : WmtCmd2Header) (rest : List UInt8) :
    decode (header.bytes ++ rest) = header := by
  cases header
  simp [decode, bytes, field_append]

theorem toNat_field16 (frame : List UInt8) (offset : Nat) :
    (UInt16.ofNat (field frame offset 2)).toNat = field frame offset 2 :=
  UInt16.toNat_ofNat_of_lt' (field_lt frame offset 2)

theorem toNat_field32 (frame : List UInt8) (offset : Nat) :
    (UInt32.ofNat (field frame offset 4)).toNat = field frame offset 4 :=
  UInt32.toNat_ofNat_of_lt' (field_lt frame offset 4)

theorem toNat_field64 (frame : List UInt8) (offset : Nat) :
    (UInt64.ofNat (field frame offset 8)).toNat = field frame offset 8 :=
  UInt64.toNat_ofNat_of_lt' (field_lt frame offset 8)

/-- Every 32 bytes are the layout of some header. -/
theorem bytes_decode {frame : List UInt8} (size : wmtCmd2FrameHeaderSize ≤ frame.length) :
    (decode frame).bytes ++ frame.drop wmtCmd2FrameHeaderSize = frame := by
  rw [wmtCmd2FrameHeaderSize] at size ⊢
  simp only [bytes, decode, toNat_field16, toNat_field32, toNat_field64,
    UInt32.toUInt32_toInt32, List.append_assoc]
  rw [bytesOf_field (by omega : 28 + 4 ≤ frame.length),
    bytesOf_field (by omega : 24 + 4 ≤ frame.length),
    bytesOf_field (by omega : 16 + 8 ≤ frame.length),
    bytesOf_field (by omega : 8 + 8 ≤ frame.length),
    bytesOf_field (by omega : 6 + 2 ≤ frame.length),
    bytesOf_field (by omega : 4 + 2 ≤ frame.length),
    bytesOf_field (by omega : 0 + 4 ≤ frame.length), List.drop_zero]

end WmtCmd2Header

/-- The reads of `protocol.c` are those of the layout. -/
theorem read16_drop {frame : List UInt8} {offset : Nat} (inside : offset + 2 ≤ frame.length) :
    read16 (frame.drop offset) = UInt16.ofNat (field frame offset 2) := by
  apply UInt16.toNat_inj.mp
  rw [read16_toNat (by rw [List.length_drop]; omega), WmtCmd2Header.toNat_field16]
  rfl

theorem read32_drop {frame : List UInt8} {offset : Nat} (inside : offset + 4 ≤ frame.length) :
    read32 (frame.drop offset) = UInt32.ofNat (field frame offset 4) := by
  apply UInt32.toNat_inj.mp
  rw [read32_toNat (by rw [List.length_drop]; omega), WmtCmd2Header.toNat_field32]
  rfl

theorem read64_drop {frame : List UInt8} {offset : Nat} (inside : offset + 8 ≤ frame.length) :
    read64 (frame.drop offset) = UInt64.ofNat (field frame offset 8) := by
  apply UInt64.toNat_inj.mp
  rw [read64_toNat (by rw [List.length_drop]; omega), WmtCmd2Header.toNat_field64]
  rfl

/-- The reads of a whole header. -/
theorem reads_decode {frame : List UInt8} (size : wmtCmd2FrameHeaderSize ≤ frame.length) :
    read32 frame = (WmtCmd2Header.decode frame).magic ∧
      read16 (frame.drop 4) = (WmtCmd2Header.decode frame).version ∧
      read16 (frame.drop 6) = (WmtCmd2Header.decode frame).kind ∧
      read64 (frame.drop 8) = (WmtCmd2Header.decode frame).sessionId ∧
      read64 (frame.drop 16) = (WmtCmd2Header.decode frame).transactionId ∧
      read32 (frame.drop 24) = (WmtCmd2Header.decode frame).payloadLen ∧
      read32 (frame.drop 28) = (WmtCmd2Header.decode frame).result.toUInt32 := by
  rw [wmtCmd2FrameHeaderSize] at size
  have magic := read32_drop (by omega : 0 + 4 ≤ frame.length)
  have result := read32_drop (by omega : 28 + 4 ≤ frame.length)
  rw [List.drop_zero] at magic
  rw [← UInt32.toUInt32_toInt32 (UInt32.ofNat _)] at result
  exact ⟨magic, read16_drop (by omega), read16_drop (by omega), read64_drop (by omega),
    read64_drop (by omega), read32_drop (by omega), result⟩

/-! ## Lists -/

/-- `struct wmt_cmd2_record`. -/
structure WmtCmd2Record where
  index : UInt32
  address : Buffer 4
  name : Buffer 256
  deriving DecidableEq, Repr

namespace WmtCmd2Record

def bytes (record : WmtCmd2Record) : List UInt8 :=
  bytesOf 4 record.index.toNat ++ record.address.bytes ++ record.name.bytes

def decode (memory : List UInt8) : WmtCmd2Record where
  index := UInt32.ofNat (field memory 0 4)
  address := .fill 4 ((memory.drop 4).take 4)
  name := .fill 256 ((memory.drop 8).take 256)

@[simp]
theorem length_bytes (record : WmtCmd2Record) : record.bytes.length = wmtCmd2RecordSize := by
  simp [bytes, record.address.length_eq, record.name.length_eq, wmtCmd2RecordSize]

@[simp]
theorem decode_bytes (record : WmtCmd2Record) (rest : List UInt8) :
    decode (record.bytes ++ rest) = record := by
  obtain ⟨index, ⟨address, addressLength⟩, ⟨name, nameLength⟩⟩ := record
  have afterIndex : (bytesOf 4 index.toNat ++ (address ++ (name ++ rest))).drop 4 =
      address ++ (name ++ rest) := List.drop_left' (length_bytesOf 4 _)
  have afterAddress : (bytesOf 4 index.toNat ++ (address ++ (name ++ rest))).drop 8 =
      name ++ rest := by
    rw [← List.drop_drop (i := 4) (j := 4), afterIndex, List.drop_left' addressLength]
  simp only [decode, bytes, List.append_assoc, afterIndex, afterAddress,
    List.take_left' addressLength, List.take_left' nameLength, field_bytesOf]
  congr
  · simp
  · exact Buffer.fill_self ⟨address, addressLength⟩
  · exact Buffer.fill_self ⟨name, nameLength⟩

end WmtCmd2Record

/-- A frame with a `struct wmt_cmd2_list` behind its header. -/
structure ListReply where
  header : WmtCmd2Header
  count : UInt32
  reserved : UInt32
  records : List WmtCmd2Record
  deriving DecidableEq, Repr

namespace ListReply

def bytes (reply : ListReply) : List UInt8 :=
  reply.header.bytes ++ bytesOf 4 reply.count.toNat ++ bytesOf 4 reply.reserved.toNat ++
    reply.records.flatMap WmtCmd2Record.bytes

def decode (frame : List UInt8) : ListReply where
  header := .decode frame
  count := UInt32.ofNat (field frame 32 4)
  reserved := UInt32.ofNat (field frame 36 4)
  records := (List.range (field frame 32 4)).map fun i =>
    .decode (frame.drop (40 + i * wmtCmd2RecordSize))

theorem length_records (records : List WmtCmd2Record) :
    (records.flatMap WmtCmd2Record.bytes).length = records.length * wmtCmd2RecordSize := by
  induction records with
  | nil => simp
  | cons first rest ih => simp [ih, Nat.add_mul, Nat.add_comm]

theorem length_bytes (reply : ListReply) :
    reply.bytes.length = 40 + reply.records.length * wmtCmd2RecordSize := by
  simp only [bytes, List.length_append, length_records, WmtCmd2Header.length_bytes,
    length_bytesOf, wmtCmd2FrameHeaderSize]

/-- The records of a list can be read one by one. -/
theorem decode_records (records : List WmtCmd2Record) (rest : List UInt8) :
    ((List.range records.length).map fun i =>
      WmtCmd2Record.decode ((records.flatMap WmtCmd2Record.bytes ++ rest).drop
        (i * wmtCmd2RecordSize))) = records := by
  induction records with
  | nil => rfl
  | cons first others ih =>
      have behind : ∀ i, ((first :: others).flatMap WmtCmd2Record.bytes ++ rest).drop
          ((i + 1) * wmtCmd2RecordSize) =
            (others.flatMap WmtCmd2Record.bytes ++ rest).drop (i * wmtCmd2RecordSize) := by
        intro i
        rw [List.flatMap_cons, List.append_assoc, Nat.add_mul, Nat.one_mul, Nat.add_comm,
          ← List.drop_drop, List.drop_left' first.length_bytes]
      rw [List.length_cons, List.range_succ_eq_map, List.map_cons, List.map_map]
      simp only [Function.comp_def, Nat.succ_eq_add_one, behind, ih, Nat.zero_mul, List.drop_zero]
      rw [List.flatMap_cons, List.append_assoc, WmtCmd2Record.decode_bytes]

/-- The decoder reads back what was laid out, if the count is that of the records. -/
theorem decode_bytes {reply : ListReply} (rest : List UInt8)
    (counted : reply.count.toNat = reply.records.length) :
    decode (reply.bytes ++ rest) = reply := by
  obtain ⟨header, count, reserved, records⟩ := reply
  have start : (header.bytes ++ bytesOf 4 count.toNat ++ bytesOf 4 reserved.toNat).length = 40 := by
    simp [wmtCmd2FrameHeaderSize]
  have countField : field (bytes ⟨header, count, reserved, records⟩ ++ rest) 32 4 =
      count.toNat := by
    simp [bytes, field_append, wmtCmd2FrameHeaderSize]
  have reservedField : field (bytes ⟨header, count, reserved, records⟩ ++ rest) 36 4 =
      reserved.toNat := by
    simp [bytes, field_append, wmtCmd2FrameHeaderSize]
  have behind : ∀ i, (bytes ⟨header, count, reserved, records⟩ ++ rest).drop
      (40 + i * wmtCmd2RecordSize) =
        (records.flatMap WmtCmd2Record.bytes ++ rest).drop (i * wmtCmd2RecordSize) := by
    intro i
    rw [bytes, List.append_assoc _ (records.flatMap WmtCmd2Record.bytes), ← List.drop_drop,
      List.drop_left' start]
  have first : WmtCmd2Header.decode (bytes ⟨header, count, reserved, records⟩ ++ rest) =
      header := by
    simp [bytes]
  simp only [decode, first, countField, reservedField, behind, UInt32.ofNat_toNat]
  rw [counted, decode_records]

end ListReply

end K50sv1.WmtLauncher.Protocol
