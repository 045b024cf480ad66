import Mathlib.Data.List.TakeWhile
import Mathlib.Data.Nat.Bitwise
import Mathlib.Data.Nat.Digits.Defs

/-!
# Bytes, fixed buffers and C strings

Numbers are laid out with the least significant byte first.  Their value is the
number with these digits in base 256, so Mathlib's digit lemmas give uniqueness and
the bounds; the encoder is the loop of shifts that a serializer runs.

Memory is a list of bytes that is overwritten in place.  A buffer is a byte array
whose size is part of its type, and the C string in it ends at its first zero byte.
-/

namespace K50sv1.Data.Bytes

/-! ## Little-endian numbers -/

/-- The number with the given little-endian bytes. -/
def littleEndian (bytes : List UInt8) : Nat :=
  Nat.ofDigits 256 (bytes.map UInt8.toNat)

/-- The `width` low bytes of a number, least significant first. -/
def bytesOf (width value : Nat) : List UInt8 :=
  (List.range width).map fun i => UInt8.ofNat (value >>> (8 * i))

@[simp]
theorem littleEndian_nil : littleEndian [] = 0 :=
  rfl

@[simp]
theorem littleEndian_cons (byte : UInt8) (rest : List UInt8) :
    littleEndian (byte :: rest) = byte.toNat + 256 * littleEndian rest := by
  simp [littleEndian, Nat.ofDigits_cons]

@[simp]
theorem length_bytesOf (width value : Nat) : (bytesOf width value).length = width := by
  simp [bytesOf]

theorem bytesOf_succ (width value : Nat) :
    bytesOf (width + 1) value = UInt8.ofNat value :: bytesOf width (value >>> 8) := by
  simp [bytesOf, List.range_succ_eq_map, ← Nat.shiftRight_add, Nat.mul_add, Nat.add_comm]

/-- Only the bits above the width are lost. -/
theorem littleEndian_bytesOf (width value : Nat) :
    littleEndian (bytesOf width value) = value % 256 ^ width := by
  induction width generalizing value with
  | zero => simp [bytesOf, Nat.mod_one]
  | succ width ih =>
      rw [bytesOf_succ, littleEndian_cons, ih, Nat.shiftRight_eq_div_pow,
        Nat.pow_succ' (n := width), Nat.mod_mul]
      simp

theorem littleEndian_lt (bytes : List UInt8) : littleEndian bytes < 256 ^ bytes.length := by
  have bounded : ∀ digit ∈ bytes.map UInt8.toNat, digit < 256 := by
    intro digit member
    obtain ⟨byte, -, rfl⟩ := List.mem_map.mp member
    exact byte.toNat_lt
  have below := Nat.ofDigits_lt_base_pow_length (by decide) bounded
  rwa [List.length_map] at below

/-- The bytes of a number are the only ones of their length with its value. -/
theorem bytesOf_littleEndian (bytes : List UInt8) :
    bytesOf bytes.length (littleEndian bytes) = bytes := by
  induction bytes with
  | nil => rfl
  | cons byte rest ih =>
      have small := byte.toNat_lt
      have high : (byte.toNat + 256 * littleEndian rest) >>> 8 = littleEndian rest := by
        rw [Nat.shiftRight_eq_div_pow]
        omega
      rw [List.length_cons, bytesOf_succ, littleEndian_cons, high, ih]
      simp [UInt8.ofNat_add, UInt8.ofNat_mul]

/-- Higher bits do not reach the bytes. -/
theorem bytesOf_mod (width value : Nat) :
    bytesOf width (value % 256 ^ width) = bytesOf width value := by
  have back := bytesOf_littleEndian (bytesOf width value)
  rwa [length_bytesOf, littleEndian_bytesOf] at back

theorem bytesOf_add (low high value : Nat) :
    bytesOf (low + high) value = bytesOf low value ++ bytesOf high (value >>> (8 * low)) := by
  simp [bytesOf, List.range_add, ← Nat.shiftRight_add, Nat.mul_add]

theorem littleEndian_append (first second : List UInt8) :
    littleEndian (first ++ second) =
      littleEndian first + 256 ^ first.length * littleEndian second := by
  simp [littleEndian, Nat.ofDigits_append]

/-- The number in the `width` bytes at `offset`. -/
def field (memory : List UInt8) (offset width : Nat) : Nat :=
  littleEndian ((memory.drop offset).take width)

@[simp]
theorem field_bytesOf (width value : Nat) (rest : List UInt8) :
    field (bytesOf width value ++ rest) 0 width = value % 256 ^ width := by
  rw [field, List.drop_zero, List.take_left' (length_bytesOf width value), littleEndian_bytesOf]

/-- A field behind the first part of memory. -/
theorem field_append (first second : List UInt8) {offset : Nat} (width : Nat)
    (behind : first.length ≤ offset) :
    field (first ++ second) offset width = field second (offset - first.length) width := by
  rw [field, List.drop_append, List.drop_eq_nil_of_le behind, List.nil_append, field]

theorem field_lt (memory : List UInt8) (offset width : Nat) :
    field memory offset width < 256 ^ width := by
  apply Nat.lt_of_lt_of_le (littleEndian_lt _)
  apply Nat.pow_le_pow_right (by decide)
  exact List.length_take_le _ _

/-- Writing back what a field holds restores memory from there on. -/
theorem bytesOf_field {memory : List UInt8} {offset width : Nat}
    (inside : offset + width ≤ memory.length) :
    bytesOf width (field memory offset width) ++ memory.drop (offset + width) =
      memory.drop offset := by
  have exact : ((memory.drop offset).take width).length = width := by
    rw [List.length_take, List.length_drop]
    omega
  have back := bytesOf_littleEndian ((memory.drop offset).take width)
  rw [exact] at back
  rw [field, back, ← List.drop_drop, List.take_append_drop]

/-! ## Memory -/

/-- Copy `bytes` to the place at `offset`. -/
def overwrite (memory : List UInt8) (offset : Nat) (bytes : List UInt8) : List UInt8 :=
  memory.take offset ++ bytes ++ memory.drop (offset + bytes.length)

section Overwrite

variable {memory : List UInt8} {offset : Nat} {bytes more : List UInt8}

theorem length_overwrite (fits : offset + bytes.length ≤ memory.length) :
    (overwrite memory offset bytes).length = memory.length := by
  simp only [overwrite, List.length_append, List.length_take, List.length_drop]
  omega

/-- Two copies to adjacent places are one copy. -/
theorem overwrite_overwrite {next : Nat} (fits : offset ≤ memory.length)
    (adjacent : next = offset + bytes.length) :
    overwrite (overwrite memory offset bytes) next more =
      overwrite memory offset (bytes ++ more) := by
  have start : (memory.take offset ++ bytes).length = offset + bytes.length := by
    rw [List.length_append, List.length_take, Nat.min_eq_left fits]
  rw [adjacent, overwrite, overwrite, List.take_left' start, List.drop_append, start,
    List.drop_drop, List.drop_eq_nil_of_le (by omega), overwrite]
  simp [Nat.add_assoc]

/-- A copy onto the first part of an earlier one. -/
theorem overwrite_start (fits : offset ≤ memory.length) (shorter : more.length ≤ bytes.length) :
    overwrite (overwrite memory offset bytes) offset more =
      overwrite memory offset (more ++ bytes.drop more.length) := by
  have start : (memory.take offset).length = offset := by
    rw [List.length_take, Nat.min_eq_left fits]
  have same : offset + (more ++ bytes.drop more.length).length = offset + bytes.length := by
    rw [List.length_append, List.length_drop]
    omega
  rw [overwrite, overwrite, overwrite, same, List.append_assoc (memory.take offset),
    List.take_left' start, List.drop_append, start,
    List.drop_eq_nil_of_le (by omega : (memory.take offset).length ≤ offset + more.length),
    Nat.add_sub_cancel_left, List.drop_append_of_le_length shorter]
  simp

/-- What a copy to the start leaves. -/
theorem overwrite_zero : overwrite memory 0 bytes = bytes ++ memory.drop bytes.length := by
  simp [overwrite]

end Overwrite

/-! ## Buffers -/

/-- A byte array of a fixed size. -/
structure Buffer (size : Nat) where
  bytes : List UInt8
  length_eq : bytes.length = size
  deriving DecidableEq, Repr

namespace Buffer

variable {size : Nat}

@[ext]
theorem ext {first second : Buffer size} (same : first.bytes = second.bytes) :
    first = second := by
  cases first
  cases second
  simpa using same

/-- A zeroed buffer into which `text` has been copied, as far as it fits. -/
def fill (size : Nat) (text : List UInt8) : Buffer size where
  bytes := text.take size ++ List.replicate (size - text.length) 0
  length_eq := by
    rw [List.length_append, List.length_take, List.length_replicate]
    omega

/-- A zeroed buffer. -/
def zero (size : Nat) : Buffer size :=
  fill size []

/-- The C string in a buffer. -/
def cString (buffer : Buffer size) : List UInt8 :=
  buffer.bytes.takeWhile (· ≠ 0)

theorem bytes_fill {text : List UInt8} (fits : text.length ≤ size) :
    (fill size text).bytes = text ++ List.replicate (size - text.length) 0 := by
  simp [fill, List.take_of_length_le fits]

/-- A buffer is its own copy. -/
theorem fill_self (buffer : Buffer size) : fill size buffer.bytes = buffer := by
  apply ext
  rw [bytes_fill buffer.length_eq.le, buffer.length_eq, Nat.sub_self, List.replicate_zero,
    List.append_nil]

theorem zero_notMem_cString (buffer : Buffer size) : (0 : UInt8) ∉ buffer.cString := by
  intro member
  simpa using List.mem_takeWhile_imp member

theorem length_cString_le (buffer : Buffer size) : buffer.cString.length ≤ size := by
  calc
    buffer.cString.length ≤ buffer.bytes.length := (List.takeWhile_sublist _).length_le
    _ = size := buffer.length_eq

/-- A C string fills its buffer only if no zero byte ends it. -/
theorem length_cString_lt_iff (buffer : Buffer size) :
    buffer.cString.length < size ↔ 0 ∈ buffer.bytes := by
  constructor
  · intro shorter
    by_contra noNul
    have whole : buffer.cString = buffer.bytes := by
      apply List.takeWhile_eq_self_iff.mpr
      intro byte member
      exact decide_eq_true fun zero => noNul (zero ▸ member)
    rw [whole, buffer.length_eq] at shorter
    exact Nat.lt_irrefl _ shorter
  · intro nul
    apply Nat.lt_of_le_of_ne buffer.length_cString_le
    intro full
    have whole : buffer.cString = buffer.bytes :=
      (List.takeWhile_sublist _).eq_of_length (full.trans buffer.length_eq.symm)
    exact buffer.zero_notMem_cString (whole ▸ nul)

/-- A text that does not fill its buffer is terminated. -/
theorem zero_mem_fill {text : List UInt8} (short : text.length < size) :
    0 ∈ (fill size text).bytes := by
  rw [bytes_fill (Nat.le_of_lt short)]
  apply List.mem_append_right
  exact List.mem_replicate.mpr ⟨by omega, rfl⟩

/-- The C string of a copy is that of the text. -/
theorem cString_fill_eq {text : List UInt8} (fits : text.length ≤ size) :
    (fill size text).cString = text.takeWhile (· ≠ 0) := by
  have padding : (List.replicate (size - text.length) (0 : UInt8)).takeWhile
      (fun byte => decide (byte ≠ 0)) = [] := by
    cases size - text.length <;> simp
  rw [cString, bytes_fill fits, List.takeWhile_append, padding, List.append_nil]
  split_ifs with whole
  · exact ((List.takeWhile_sublist _).eq_of_length whole).symm
  · rfl

/-- A text without zero bytes is the C string of the buffer it was copied to. -/
theorem cString_fill {text : List UInt8} (fits : text.length ≤ size) (noNul : 0 ∉ text) :
    (fill size text).cString = text := by
  rw [cString_fill_eq fits, List.takeWhile_eq_self_iff]
  intro byte member
  exact decide_eq_true fun zero => noNul (zero ▸ member)

end Buffer

end K50sv1.Data.Bytes
