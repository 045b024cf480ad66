import Mathlib.Data.List.DropRight
import Mathlib.Tactic.SplitIfs

/-!
# Character classes and numbers in C text

`isspace` and `isxdigit` of the C locale, the text between leading and trailing white
space, and `strtol` for base 16 with a 64-bit `long`.
-/

namespace K50sv1.Data.CText

/-! ## Character classes -/

/-- `isspace` of the C locale. -/
def isSpace (byte : UInt8) : Bool :=
  byte = 0x20 || (0x09 ≤ byte && byte ≤ 0x0d)

/-- The value of a hexadecimal digit of either case. -/
def hexValue? (byte : UInt8) : Option Nat :=
  if 0x30 ≤ byte ∧ byte ≤ 0x39 then some (byte.toNat - 0x30)
  else if 0x41 ≤ byte ∧ byte ≤ 0x46 then some (byte.toNat - 0x41 + 10)
  else if 0x61 ≤ byte ∧ byte ≤ 0x66 then some (byte.toNat - 0x61 + 10)
  else none

/-- `isxdigit` of the C locale. -/
def isXDigit (byte : UInt8) : Bool :=
  (hexValue? byte).isSome

/-- The value of a digit, and 0 of anything else. -/
def hexValue (byte : UInt8) : Nat :=
  (hexValue? byte).getD 0

theorem hexValue_lt (byte : UInt8) : hexValue byte < 16 := by
  unfold hexValue hexValue?
  simp only [UInt8.le_iff_toNat_le, UInt8.reduceToNat]
  split_ifs with decimal upper lower <;> simp only [Option.getD] <;> omega

theorem isXDigit_iff {byte : UInt8} :
    isXDigit byte = true ↔ (0x30 ≤ byte.toNat ∧ byte.toNat ≤ 0x39) ∨
      (0x41 ≤ byte.toNat ∧ byte.toNat ≤ 0x46) ∨ (0x61 ≤ byte.toNat ∧ byte.toNat ≤ 0x66) := by
  unfold isXDigit hexValue?
  simp only [UInt8.le_iff_toNat_le, UInt8.reduceToNat]
  split_ifs with decimal upper lower <;> simp [*]

theorem isSpace_iff {byte : UInt8} :
    isSpace byte = true ↔ byte.toNat = 0x20 ∨ (0x09 ≤ byte.toNat ∧ byte.toNat ≤ 0x0d) := by
  simp [isSpace, UInt8.le_iff_toNat_le, ← UInt8.toNat_inj]

/-- A digit is no white space. -/
theorem isSpace_eq_false {byte : UInt8} (digit : isXDigit byte = true) :
    isSpace byte = false := by
  rw [isXDigit_iff] at digit
  rw [← Bool.not_eq_true, isSpace_iff]
  omega

/-- The text without white space at either end. -/
def trim (text : List UInt8) : List UInt8 :=
  (text.dropWhile isSpace).rdropWhile isSpace

/-! ## `strtol` -/

/-- Split off an optional sign; `true` is minus. -/
def splitSign : List UInt8 → Bool × List UInt8
  | [] => (false, [])
  | byte :: rest =>
      if byte = 0x2d then (true, rest)
      else if byte = 0x2b then (false, rest)
      else (false, byte :: rest)

/-- Skip the mark `0x`, if a digit follows it. -/
def skipHexMark : List UInt8 → List UInt8
  | zero :: mark :: digit :: rest =>
      if zero = 0x30 ∧ (mark = 0x78 ∨ mark = 0x58) ∧ isXDigit digit then digit :: rest
      else zero :: mark :: digit :: rest
  | text => text

def hexNumber (digits : List UInt8) : Nat :=
  digits.foldl (fun value digit => 16 * value + hexValue digit) 0

/-- `strtol(text, NULL, 16)`: white space, a sign, the mark, then as many digits as there
are, clamped to the range of `long`. -/
def strtol16 (text : List UInt8) : Int :=
  let (negative, unsigned) := splitSign (text.dropWhile isSpace)
  let value : Int := hexNumber ((skipHexMark unsigned).takeWhile isXDigit)
  if negative then max (-value) (-0x8000000000000000) else min value 0x7fffffffffffffff

section TwoDigits

variable {high low : UInt8} {rest : List UInt8}

theorem splitSign_of_isXDigit (digit : isXDigit high = true) :
    splitSign (high :: rest) = (false, high :: rest) := by
  rw [isXDigit_iff] at digit
  have notMinus : high ≠ 0x2d := by
    rintro rfl
    revert digit
    decide
  have notPlus : high ≠ 0x2b := by
    rintro rfl
    revert digit
    decide
  rw [splitSign, if_neg notMinus, if_neg notPlus]

/-- The second of two digits is no mark. -/
theorem skipHexMark_of_isXDigit (digit : isXDigit low = true) :
    skipHexMark (high :: low :: rest) = high :: low :: rest := by
  have notMark : ¬ (low = 0x78 ∨ low = 0x58) := by
    rintro (rfl | rfl)
    · exact absurd digit (by decide)
    · exact absurd digit (by decide)
  cases rest with
  | nil => rfl
  | cons next rest => exact if_neg fun mark => notMark mark.2.1

/-- Two digits with no third behind them give their number. -/
theorem strtol16_two (highDigit : isXDigit high = true) (lowDigit : isXDigit low = true)
    (ends : ∀ next ∈ rest.head?, isXDigit next = false) :
    strtol16 (high :: low :: rest) = (16 * hexValue high + hexValue low : Nat) := by
  have highSmall := hexValue_lt high
  have lowSmall := hexValue_lt low
  have digits : (high :: low :: rest).takeWhile isXDigit = [high, low] := by
    have none_left : rest.takeWhile isXDigit = [] := by
      cases rest with
      | nil => rfl
      | cons next rest => exact List.takeWhile_cons_of_neg (by simp [ends next rfl])
    rw [List.takeWhile_cons_of_pos highDigit, List.takeWhile_cons_of_pos lowDigit, none_left]
  have number : hexNumber [high, low] = 16 * hexValue high + hexValue low := by
    simp [hexNumber]
  unfold strtol16
  rw [List.dropWhile_cons_of_neg (by simp [isSpace_eq_false highDigit]),
    splitSign_of_isXDigit highDigit]
  dsimp only
  rw [skipHexMark_of_isXDigit lowDigit, digits, number, if_neg Bool.false_ne_true]
  omega

end TwoDigits

end K50sv1.Data.CText
