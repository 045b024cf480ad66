import K50sv1.Data.CText

/-!
# The custom MAC address

`get_custom_mac_address` checks the text by position and then parses it again with
`strtol` at every third character.  What it accepts is stated as a grammar: six groups
of two hexadecimal digits with colons between them.
-/

namespace K50sv1.WlanAssistant

open K50sv1.Data

def colon : UInt8 := 0x3a

/-- The loop over the characters from position `i` on. -/
def macCharsValid : Nat → List UInt8 → Bool
  | _, [] => true
  | i, byte :: rest =>
      (if i % 3 = 2 then byte == colon else CText.isXDigit byte) && macCharsValid (i + 1) rest

/-- `static_cast<char>` of a `long`. -/
def charOfLong (value : Int) : UInt8 :=
  UInt8.ofInt value

theorem charOfLong_natCast (value : Nat) : charOfLong (value : Int) = UInt8.ofNat value := by
  rw [charOfLong, UInt8.ofInt]
  apply UInt8.toNat_inj.mp
  rw [UInt8.toNat_ofNat', UInt8.toNat_ofNat']
  omega

/-- The numbers at the first `count` places for a group. -/
def macOctets (count : Nat) (text : List UInt8) : List UInt8 :=
  (List.range count).map fun i => charOfLong (CText.strtol16 (text.drop (i * 3)))

/-- The address in the MAC file, given what reading the file yields. -/
def getCustomMacAddress (file : Option (List UInt8)) : Option (List UInt8) :=
  match file with
  | none => none
  | some content =>
      let text := CText.trim content
      if text.length = 17 then
        if macCharsValid 0 text then some (macOctets 6 text) else none
      else
        none

/-! ## The grammar -/

/-- Two hexadecimal digits. -/
structure HexPair where
  high : UInt8
  low : UInt8
  high_digit : CText.isXDigit high = true
  low_digit : CText.isXDigit low = true

namespace HexPair

def text (pair : HexPair) : List UInt8 :=
  [pair.high, pair.low]

def octet (pair : HexPair) : UInt8 :=
  UInt8.ofNat (16 * CText.hexValue pair.high + CText.hexValue pair.low)

end HexPair

/-- The text is six pairs of digits separated by colons; `octets` are their values. -/
def IsMacText (text octets : List UInt8) : Prop :=
  ∃ pairs : List HexPair, pairs.length = 6 ∧
    text = [colon].intercalate (pairs.map HexPair.text) ∧ octets = pairs.map HexPair.octet

/-! ## Acceptance -/

theorem macCharsValid_add_three (i : Nat) (text : List UInt8) :
    macCharsValid (i + 3) text = macCharsValid i text := by
  induction text generalizing i with
  | nil => rfl
  | cons byte rest ih =>
      have shifted : (i + 3) % 3 = i % 3 := Nat.add_mod_right i 3
      have next : i + 3 + 1 = i + 1 + 3 := by omega
      rw [macCharsValid, macCharsValid, shifted, next, ih]

/-- The characters of one group and of the colon behind it. -/
theorem macCharsValid_group (high low separator : UInt8) (rest : List UInt8) :
    macCharsValid 0 (high :: low :: separator :: rest) =
      (CText.isXDigit high && (CText.isXDigit low &&
        (separator == colon && macCharsValid 0 rest))) := by
  rw [← macCharsValid_add_three 0 rest]
  rfl

/-- The first group's number, if no third digit follows it. -/
theorem macOctets_group (pair : HexPair) (rest : List UInt8)
    (ends : ∀ next ∈ rest.head?, CText.isXDigit next = false) (count : Nat) :
    macOctets (count + 1) (pair.text ++ rest) =
      pair.octet :: macOctets count (rest.drop 1) := by
  have first : charOfLong (CText.strtol16 (pair.text ++ rest)) = pair.octet := by
    rw [HexPair.text, List.cons_append, List.cons_append, List.nil_append,
      CText.strtol16_two pair.high_digit pair.low_digit ends]
    exact charOfLong_natCast _
  have later (i : Nat) : (pair.text ++ rest).drop ((i + 1) * 3) = (rest.drop 1).drop (i * 3) := by
    rw [List.drop_drop, Nat.add_mul, Nat.add_comm (i * 3), Nat.one_mul]
    rw [show 3 + i * 3 = 2 + (1 + i * 3) by omega, ← List.drop_drop]
    rfl
  rw [macOctets, List.range_succ_eq_map, List.map_cons, List.map_map, Nat.zero_mul,
    List.drop_zero, first, macOctets]
  simp only [Function.comp_def, Nat.succ_eq_add_one, later]

/-- The text of the pairs passes both loops. -/
theorem mac_of_pairs (pair : HexPair) (pairs : List HexPair) :
    ([colon].intercalate ((pair :: pairs).map HexPair.text)).length = 3 * pairs.length + 2 ∧
      macCharsValid 0 ([colon].intercalate ((pair :: pairs).map HexPair.text)) = true ∧
      macOctets (pairs.length + 1) ([colon].intercalate ((pair :: pairs).map HexPair.text)) =
        (pair :: pairs).map HexPair.octet := by
  induction pairs generalizing pair with
  | nil =>
      have text_eq : [colon].intercalate ([pair].map HexPair.text) = pair.text ++ [] := by
        simp
      rw [text_eq]
      refine ⟨rfl, ?_, ?_⟩
      · simp [HexPair.text, macCharsValid, pair.high_digit, pair.low_digit]
      · rw [List.length_nil, macOctets_group pair [] (by simp)]
        rfl
  | cons next pairs ih =>
      obtain ⟨length_eq, valid, octets⟩ := ih next
      have text_eq : [colon].intercalate ((pair :: next :: pairs).map HexPair.text) =
          pair.text ++ colon :: [colon].intercalate ((next :: pairs).map HexPair.text) := by
        simp
      rw [text_eq]
      refine ⟨?_, ?_, ?_⟩
      · rw [List.length_append, List.length_cons, length_eq, List.length_cons]
        change 2 + _ = _
        omega
      · rw [HexPair.text, List.cons_append, List.cons_append, List.nil_append,
          macCharsValid_group, pair.high_digit, pair.low_digit, valid]
        rfl
      · have ends : ∀ byte ∈ (colon ::
            [colon].intercalate ((next :: pairs).map HexPair.text)).head?,
            CText.isXDigit byte = false := by
          rintro _ ⟨⟩
          decide
        rw [macOctets_group pair _ ends, List.length_cons, List.drop_one, List.tail_cons, octets]
        rfl

/-- A text of the right length that passes the check consists of pairs. -/
theorem pairs_of_macCharsValid (count : Nat) (text : List UInt8)
    (length_eq : text.length = 3 * count + 2) (valid : macCharsValid 0 text = true) :
    ∃ pairs : List HexPair, pairs.length = count + 1 ∧
      text = [colon].intercalate (pairs.map HexPair.text) := by
  induction count generalizing text with
  | zero =>
      obtain ⟨high, low, rfl⟩ := List.length_eq_two.mp length_eq
      simp only [macCharsValid, Bool.and_eq_true] at valid
      exact ⟨[⟨high, low, valid.1, valid.2.1⟩], rfl, by simp [HexPair.text]⟩
  | succ count ih =>
      match text, length_eq with
      | high :: low :: separator :: rest, length_eq =>
          rw [macCharsValid_group] at valid
          simp only [Bool.and_eq_true, beq_iff_eq] at valid
          obtain ⟨high_digit, low_digit, rfl, restValid⟩ := valid
          have restLength : rest.length = 3 * count + 2 := by
            simp only [List.length_cons] at length_eq
            omega
          obtain ⟨pairs, count_eq, rfl⟩ := ih rest restLength restValid
          refine ⟨⟨high, low, high_digit, low_digit⟩ :: pairs, ?_, ?_⟩
          · rw [List.length_cons, count_eq]
          cases pairs with
          | nil => exact absurd count_eq (Nat.zero_ne_add_one count)
          | cons next pairs => simp [HexPair.text]

/-- The address is used exactly if the trimmed text has the form of one. -/
theorem getCustomMacAddress_eq_some_iff {file : Option (List UInt8)} {octets : List UInt8} :
    getCustomMacAddress file = some octets ↔
      ∃ content, file = some content ∧ IsMacText (CText.trim content) octets := by
  constructor
  · intro accepted
    cases file with
    | none => exact nomatch accepted
    | some content =>
        refine ⟨content, rfl, ?_⟩
        unfold getCustomMacAddress at accepted
        dsimp only at accepted
        split_ifs at accepted with length_eq valid
        obtain ⟨pairs, count_eq, text_eq⟩ := pairs_of_macCharsValid 5 _ length_eq valid
        cases pairs with
        | nil => exact absurd count_eq (Nat.zero_ne_add_one 5)
        | cons pair pairs =>
            obtain ⟨-, -, octets_eq⟩ := mac_of_pairs pair pairs
            rw [← text_eq, ← List.length_cons, count_eq] at octets_eq
            exact ⟨pair :: pairs, count_eq, text_eq, by rw [← octets_eq, Option.some.inj accepted]⟩
  · rintro ⟨content, rfl, pairs, count_eq, text_eq, rfl⟩
    cases pairs with
    | nil => exact absurd count_eq (Nat.zero_ne_add_one 5)
    | cons pair pairs =>
        obtain ⟨length_eq, valid, octets_eq⟩ := mac_of_pairs pair pairs
        have count' : pairs.length = 5 := Nat.succ.inj count_eq
        rw [← text_eq, count'] at length_eq octets_eq
        rw [← text_eq] at valid
        unfold getCustomMacAddress
        dsimp only
        rw [if_pos length_eq, if_pos valid, octets_eq]

end K50sv1.WlanAssistant
