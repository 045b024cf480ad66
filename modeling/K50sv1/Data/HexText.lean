import Mathlib.Data.Nat.Digits.Lemmas
import K50sv1.Data.CText

/-!
# Hexadecimal numbers in C text

The conversion `%x` of `printf` with a zero-padded width, and what reads such a text back:
`strtoul` for base 16 with a 64-bit `unsigned long`, and the conversion `%llx` of `sscanf`.
-/

namespace K50sv1.Data.CText

/-! ## Printing -/

/-- The digit that `%x` prints for a value below 16. -/
def hexDigit (value : Nat) : UInt8 :=
  UInt8.ofNat (if value < 10 then 0x30 + value else 0x57 + value)

/-- The text of `%x`. -/
def hexDigits (number : Nat) : List UInt8 :=
  if number = 0 then [hexDigit 0] else (Nat.digits 16 number).reverse.map hexDigit

/-- The text of `%x` with a minimal width that is filled with zeros. -/
def hexText (width number : Nat) : List UInt8 :=
  List.replicate (width - (hexDigits number).length) (hexDigit 0) ++ hexDigits number

theorem hexValue?_hexDigit {value : Nat} (small : value < 16) :
    hexValue? (hexDigit value) = some value := by
  revert value
  decide

theorem hexValue_hexDigit {value : Nat} (small : value < 16) :
    hexValue (hexDigit value) = value := by
  rw [hexValue, hexValue?_hexDigit small, Option.getD_some]

theorem isXDigit_hexDigit {value : Nat} (small : value < 16) :
    isXDigit (hexDigit value) = true := by
  rw [isXDigit, hexValue?_hexDigit small, Option.isSome_some]

theorem isXDigit_of_mem_hexDigits {number : Nat} {byte : UInt8}
    (member : byte ∈ hexDigits number) : isXDigit byte = true := by
  unfold hexDigits at member
  split_ifs at member with zero
  · obtain rfl := List.mem_singleton.mp member
    exact isXDigit_hexDigit (by decide)
  · obtain ⟨digit, among, rfl⟩ := List.mem_map.mp member
    exact isXDigit_hexDigit (Nat.digits_lt_base (by decide) (List.mem_reverse.mp among))

theorem isXDigit_of_mem_hexText {width number : Nat} {byte : UInt8}
    (member : byte ∈ hexText width number) : isXDigit byte = true := by
  rcases List.mem_append.mp member with padding | digit
  · rw [List.eq_of_mem_replicate padding]
    exact isXDigit_hexDigit (by decide)
  · exact isXDigit_of_mem_hexDigits digit

theorem hexDigits_ne_nil (number : Nat) : hexDigits number ≠ [] := by
  unfold hexDigits
  split_ifs with zero
  · exact List.cons_ne_nil _ _
  · simpa [Nat.digits_eq_nil_iff_eq_zero] using zero

theorem hexText_ne_nil (width number : Nat) : hexText width number ≠ [] := by
  simp [hexText, hexDigits_ne_nil]

theorem length_hexDigits_le {number : Nat} (small : number ≤ 0xffffffffffffffff) :
    (hexDigits number).length ≤ 16 := by
  unfold hexDigits
  split_ifs
  · simp
  · rw [List.length_map, List.length_reverse]
    exact (Nat.digits_length_le_iff (by decide) number).mpr (by omega)

/-- A number of 64 bits has sixteen digits at most. -/
theorem length_hexText_le {width number : Nat} (narrow : width ≤ 16)
    (small : number ≤ 0xffffffffffffffff) : (hexText width number).length ≤ 16 := by
  have digits := length_hexDigits_le small
  rw [hexText, List.length_append, List.length_replicate]
  omega

/-! ## The number of a text -/

theorem hexNumber_append (first second : List UInt8) :
    hexNumber (first ++ second) =
      second.foldl (fun value digit => 16 * value + hexValue digit) (hexNumber first) := by
  rw [hexNumber, List.foldl_append, hexNumber]

/-- The digits of a number, least significant first, make up the number. -/
theorem hexNumber_map_reverse {digits : List Nat} (small : ∀ digit ∈ digits, digit < 16) :
    hexNumber (digits.reverse.map hexDigit) = Nat.ofDigits 16 digits := by
  induction digits with
  | nil => rfl
  | cons digit digits ih =>
      rw [List.reverse_cons, List.map_append, hexNumber_append,
        ih fun other member => small other (List.mem_cons_of_mem _ member), Nat.ofDigits_cons]
      simp only [List.map_cons, List.map_nil, List.foldl_cons, List.foldl_nil,
        hexValue_hexDigit (small digit List.mem_cons_self)]
      omega

theorem hexNumber_hexDigits (number : Nat) : hexNumber (hexDigits number) = number := by
  unfold hexDigits
  split_ifs with zero
  · rw [zero]
    decide
  · rw [hexNumber_map_reverse fun digit => Nat.digits_lt_base (by decide), Nat.ofDigits_digits]

theorem hexNumber_replicate_zero (count : Nat) :
    hexNumber (List.replicate count (hexDigit 0)) = 0 := by
  induction count with
  | zero => rfl
  | succ count ih =>
      rw [List.replicate_succ', hexNumber_append, ih]
      decide

@[simp]
theorem hexNumber_hexText (width number : Nat) : hexNumber (hexText width number) = number := by
  rw [hexText, hexNumber_append, hexNumber_replicate_zero]
  exact hexNumber_hexDigits number

/-! ## Reading -/

/-- What a conversion leaves: the value, the text from the first byte that was not used,
and whether the value was out of range. -/
structure Converted where
  value : Nat
  rest : List UInt8
  outOfRange : Bool
  deriving DecidableEq, Repr

/-- The digits that a conversion for base 16 reads: after white space, a sign and the
mark. -/
def hexField (text : List UInt8) : Bool × List UInt8 :=
  let (negative, unsigned) := splitSign (text.dropWhile isSpace)
  (negative, skipHexMark unsigned)

/-- `strtoul(text, &end, 16)`. -/
def strtoul16 (text : List UInt8) : Converted :=
  let (negative, field) := hexField text
  let value := hexNumber (field.takeWhile isXDigit)
  { value :=
      if 0xffffffffffffffff < value then 0xffffffffffffffff
      else if negative then (0x10000000000000000 - value) % 0x10000000000000000
      else value
    rest := if field.takeWhile isXDigit = [] then text else field.dropWhile isXDigit
    outOfRange := 0xffffffffffffffff < value }

/-- The conversion `%llx` of `sscanf`, which fails without a digit. -/
def scanHex (text : List UInt8) : Option (Nat × List UInt8) :=
  if (hexField text).2.takeWhile isXDigit = [] then none
  else some ((strtoul16 text).value, (strtoul16 text).rest)

section Digits

variable {digits rest : List UInt8}

/-- Digits are no mark unless an `x` stands behind a single one. -/
theorem skipHexMark_digits (digit : ∀ byte ∈ digits, isXDigit byte = true)
    (some_digit : digits ≠ [])
    (ends : ∀ next ∈ rest.head?, next ≠ 0x78 ∧ next ≠ 0x58) :
    skipHexMark (digits ++ rest) = digits ++ rest := by
  cases digits with
  | nil => exact absurd rfl some_digit
  | cons high digits =>
      cases digits with
      | cons low digits =>
          exact skipHexMark_of_isXDigit (digit low (by simp))
      | nil =>
          cases rest with
          | nil => rfl
          | cons next rest =>
              obtain ⟨lower, upper⟩ := ends next rfl
              cases rest with
              | nil => rfl
              | cons _ _ => exact if_neg fun mark => mark.2.1.elim lower upper

theorem skipHexMark_mark (digit : ∀ byte ∈ digits, isXDigit byte = true)
    (some_digit : digits ≠ []) :
    skipHexMark (0x30 :: 0x78 :: (digits ++ rest)) = digits ++ rest := by
  cases digits with
  | nil => exact absurd rfl some_digit
  | cons high digits => exact if_pos ⟨rfl, .inl rfl, digit high List.mem_cons_self⟩

/-- A field of digits is read to its end. -/
theorem strtoul16_of_hexField {text : List UInt8} (field : hexField text = (false, digits ++ rest))
    (digit : ∀ byte ∈ digits, isXDigit byte = true) (some_digit : digits ≠ [])
    (ends : ∀ next ∈ rest.head?, isXDigit next = false)
    (small : hexNumber digits ≤ 0xffffffffffffffff) :
    strtoul16 text = { value := hexNumber digits, rest, outOfRange := false } := by
  have stops : rest.takeWhile isXDigit = [] ∧ rest.dropWhile isXDigit = rest := by
    cases rest with
    | nil => exact ⟨rfl, rfl⟩
    | cons next rest => simp [ends next rfl]
  have taken : (digits ++ rest).takeWhile isXDigit = digits := by
    rw [List.takeWhile_append_of_pos digit, stops.1, List.append_nil]
  have dropped : (digits ++ rest).dropWhile isXDigit = rest := by
    rw [List.dropWhile_append_of_pos digit, stops.2]
  unfold strtoul16
  rw [field]
  dsimp only
  rw [taken, dropped, if_neg some_digit, if_neg (Nat.not_lt.mpr small),
    if_neg Bool.false_ne_true, decide_eq_false (Nat.not_lt.mpr small)]

theorem hexField_digits (digit : ∀ byte ∈ digits, isXDigit byte = true) (some_digit : digits ≠ [])
    (ends : ∀ next ∈ rest.head?, next ≠ 0x78 ∧ next ≠ 0x58) :
    hexField (digits ++ rest) = (false, digits ++ rest) := by
  obtain ⟨high, more, rfl⟩ := List.exists_cons_of_ne_nil some_digit
  have first := digit high List.mem_cons_self
  rw [hexField, List.cons_append, List.dropWhile_cons_of_neg (by simp [isSpace_eq_false first]),
    splitSign_of_isXDigit first, ← List.cons_append]
  dsimp only
  rw [skipHexMark_digits digit some_digit ends]

theorem hexField_mark (digit : ∀ byte ∈ digits, isXDigit byte = true) (some_digit : digits ≠ []) :
    hexField (0x30 :: 0x78 :: (digits ++ rest)) = (false, digits ++ rest) := by
  have zero : isXDigit 0x30 = true := by decide
  rw [hexField, List.dropWhile_cons_of_neg (by decide), splitSign_of_isXDigit zero]
  dsimp only
  rw [skipHexMark_mark digit some_digit]

end Digits

/-! ## Round trips -/

section RoundTrip

variable {width number : Nat} {rest : List UInt8}

/-- `strtoul` reads back what `0x%x` printed. -/
theorem strtoul16_hexText (small : number ≤ 0xffffffffffffffff)
    (ends : ∀ next ∈ rest.head?, isXDigit next = false) :
    strtoul16 (0x30 :: 0x78 :: (hexText width number ++ rest)) =
      { value := number, rest, outOfRange := false } := by
  rw [strtoul16_of_hexField
    (hexField_mark (fun _ => isXDigit_of_mem_hexText) (hexText_ne_nil width number))
    (fun _ => isXDigit_of_mem_hexText) (hexText_ne_nil width number) ends (by simpa using small),
    hexNumber_hexText]

/-- `%llx` reads back what `%x` printed. -/
theorem scanHex_hexText (small : number ≤ 0xffffffffffffffff)
    (ends : ∀ next ∈ rest.head?, isXDigit next = false ∧ next ≠ 0x78 ∧ next ≠ 0x58) :
    scanHex (hexText width number ++ rest) = some (number, rest) := by
  have field : hexField (hexText width number ++ rest) = (false, hexText width number ++ rest) :=
    hexField_digits (fun _ => isXDigit_of_mem_hexText) (hexText_ne_nil width number)
      fun next member => (ends next member).2
  have converted := strtoul16_of_hexField field (fun _ => isXDigit_of_mem_hexText)
    (hexText_ne_nil width number) (fun next member => (ends next member).1) (by simpa using small)
  have some_digit : (hexText width number ++ rest).takeWhile isXDigit ≠ [] := by
    rw [List.takeWhile_append_of_pos fun _ => isXDigit_of_mem_hexText]
    simp [hexText_ne_nil]
  rw [scanHex, converted, field, if_neg some_digit, hexNumber_hexText]

end RoundTrip

end K50sv1.Data.CText
