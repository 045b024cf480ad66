import K50sv1.Data.Bytes
import K50sv1.RilShim.Got.Scan
import K50sv1.RilShim.Got.Transaction

/-!
# Looking up one GOT slot

`findGotEntry` over the memory of the library, with every read it makes on record.
Memory, page size and protections are arbitrary; nothing is assumed of the tables
beyond what a successful scan has checked.

A run reads only inside the loaded segments, and it yields an entry only for the one
relocation that names the symbol.  An entry it yields is one that the installation's
own call yields for a process with the same contents, and a refusal is a refusal there.
-/

namespace K50sv1.RilShim.Got.Elf

open K50sv1.Data
open K50sv1.Transition
open K50sv1.Transition.Program

/-! ## Memory -/

abbrev Memory := UInt64 → UInt8

def bytesAt (memory : Memory) (address : UInt64) (length : Nat) : List UInt8 :=
  (List.range length).map fun i => memory (address + UInt64.ofNat i)

def word64At (memory : Memory) (address : UInt64) : UInt64 :=
  UInt64.ofNat (Bytes.littleEndian (bytesAt memory address 8))

def word32At (memory : Memory) (address : UInt64) : UInt32 :=
  UInt32.ofNat (Bytes.littleEndian (bytesAt memory address 4))

structure Access where
  address : UInt64
  length : Nat
  deriving DecidableEq, Repr

/-! ## Calls -/

inductive ElfOp where
  | read (address : UInt64) (length : Nat)
  /-- `sysconf(_SC_PAGESIZE)`. -/
  | pageSize
  | mappingProt (address : UInt64)

def ElfOp.Reply : ElfOp → Type
  | .read _ _ => List UInt8
  | .pageSize => Int
  | .mappingProt _ => Int

abbrev ElfProgram := Program ElfOp ElfOp.Reply

/-- A read is answered from memory and recorded; the other calls answer anything. -/
def answerElf (memory : Memory) : Program.Handler ElfOp ElfOp.Reply (List Access) Int
  | log, .read address length, _ => (log ++ [⟨address, length⟩], bytesAt memory address length)
  | log, .pageSize, choice => (log, choice)
  | log, .mappingProt _, choice => (log, choice)

def readBytes (address : UInt64) (length : Nat) : ElfProgram (List UInt8) :=
  Program.perform (ElfOp.read address length)

def read64 (address : UInt64) : ElfProgram UInt64 := do
  let bytes ← readBytes address 8
  return UInt64.ofNat (Bytes.littleEndian bytes)

def read32 (address : UInt64) : ElfProgram UInt32 := do
  let bytes ← readBytes address 4
  return UInt32.ofNat (Bytes.littleEndian bytes)

def sysconfPageSize : ElfProgram Int :=
  Program.perform ElfOp.pageSize

def mappingProt (address : UInt64) : ElfProgram Int :=
  Program.perform (ElfOp.mappingProt address)

/-! ## The lookup -/

/-- `R_AARCH64_JUMP_SLOT`. -/
def jumpSlot : UInt64 := 1026

/-- A symbol as the C string that the lookup compares. -/
structure SymbolName where
  bytes : List UInt8
  noNul : 0 ∉ bytes
  size_lt : bytes.length + 1 < 2 ^ 64

/-- `strlen(symbol) + 1`. -/
def SymbolName.len (symbol : SymbolName) : UInt64 :=
  UInt64.ofNat (symbol.bytes.length + 1)

/-- `GotEntry` with the addresses and words of the process. -/
structure GotEntry where
  symbol : SymbolName
  slot : UInt64
  original : UInt64
  replacement : UInt64
  page : UInt64
  pageSize : UInt64
  protection : Int

/-- `&scan->jmprel[i]`. -/
def relaAddress (scan : GotScan) (i : Nat) : UInt64 :=
  scan.jmprel + relaSize * UInt64.ofNat i

/-- `&scan->symtab[symIndex]` for the symbol index in `r_info`. -/
def symAddress (scan : GotScan) (info : UInt64) : UInt64 :=
  scan.symtab + symSize * (info >>> 32)

/-- Whether the relocation at `rela` is a jump slot for the symbol. -/
def namesSymbol (scan : GotScan) (symbol : SymbolName) (rela : UInt64) : ElfProgram Bool := do
  let info ← read64 (rela + 8)
  if info &&& 0xffffffff ≠ jumpSlot then
    return false
  else if !inModule scan (symAddress scan info) symSize then
    return false
  else
    let stName ← read32 (symAddress scan info)
    if stName.toUInt64 > uintptrMax - scan.strtab then
      return false
    else if !inModule scan (scan.strtab + stName.toUInt64) symbol.len then
      return false
    else
      let name ← readBytes (scan.strtab + stName.toUInt64) (symbol.bytes.length + 1)
      return name = symbol.bytes ++ [0]

/-- The entry for a slot in the module, if the slot can be used. -/
def entryOfSlot (symbol : SymbolName) (replacement slot : UInt64) :
    ElfProgram (Option GotEntry) := do
  let size ← sysconfPageSize
  if size ≤ 0 then
    return none
  else
    let protection ← mappingProt slot
    if protection < 0 then
      return none
    else
      let original ← read64 slot
      if original = 0 ∨ original = replacement then
        return none
      else
        return some
          { symbol, slot, original, replacement
            page := slot - slot % UInt64.ofNat size.toNat
            pageSize := UInt64.ofNat size.toNat, protection }

/-- The entry for a relocation that names the symbol. -/
def entryAt (scan : GotScan) (symbol : SymbolName) (replacement rela : UInt64) :
    ElfProgram (Option GotEntry) := do
  let offset ← read64 rela
  if offset > uintptrMax - scan.base then
    return none
  else if !inModule scan (scan.base + offset) 8 then
    return none
  else
    entryOfSlot symbol replacement (scan.base + offset)

/-- The loop over the relocations, with the number that is left and the entry found so
far.  It goes on after a match; a second one ends it. -/
def findGotLoop (scan : GotScan) (symbol : SymbolName) (replacement : UInt64) :
    Nat → Nat → Option GotEntry → ElfProgram (Option GotEntry)
  | 0, _, found => pure found
  | remaining + 1, i, found => do
      if ← namesSymbol scan symbol (relaAddress scan i) then
        match ← entryAt scan symbol replacement (relaAddress scan i) with
        | none => return none
        | some entry =>
            if found.isSome then
              return none
            else
              findGotLoop scan symbol replacement remaining (i + 1) (some entry)
      else
        findGotLoop scan symbol replacement remaining (i + 1) found

def findGotEntry (scan : GotScan) (symbol : SymbolName) (replacement : UInt64) :
    ElfProgram (Option GotEntry) :=
  findGotLoop scan symbol replacement scan.jmprelCount.toNat 0 none

/-- One call of `findGotEntry`: the entry it fills in if it returns true, and the reads
it made.  The answers of `sysconf` and `mappingProt` are given. -/
def lookup (memory : Memory) (answers : Nat → Int) (scan : GotScan) (symbol : SymbolName)
    (replacement : UInt64) : Option GotEntry × List Access :=
  (findGotEntry scan symbol replacement).run (answerElf memory) [] answers

/-! ## What the lookup is to find -/

/-- `r_info` of relocation `i`. -/
def infoAt (memory : Memory) (scan : GotScan) (i : Nat) : UInt64 :=
  word64At memory (relaAddress scan i + 8)

/-- `r_offset` of relocation `i`. -/
def offsetAt (memory : Memory) (scan : GotScan) (i : Nat) : UInt64 :=
  word64At memory (relaAddress scan i)

/-- `st_name` in the symbol entry of relocation `i`. -/
def stNameAt (memory : Memory) (scan : GotScan) (i : Nat) : UInt64 :=
  (word32At memory (symAddress scan (infoAt memory scan i))).toUInt64

/-- Relocation `i` is a jump slot whose symbol entry and name lie in the module, and the
name is the requested one with its terminator. -/
structure Names (memory : Memory) (scan : GotScan) (symbol : SymbolName) (i : Nat) : Prop where
  jump_slot : infoAt memory scan i &&& 0xffffffff = jumpSlot
  sym_inside : Inside scan (symAddress scan (infoAt memory scan i)) symSize.toNat
  name_lt : scan.strtab.toNat + (stNameAt memory scan i).toNat < 2 ^ 64
  name_inside :
    Inside scan (scan.strtab + stNameAt memory scan i) (symbol.bytes.length + 1)
  name_eq : bytesAt memory (scan.strtab + stNameAt memory scan i) (symbol.bytes.length + 1) =
    symbol.bytes ++ [0]

/-- The entry is for the slot of relocation `i` and describes what memory holds there. -/
structure DescribesSlot (memory : Memory) (scan : GotScan) (symbol : SymbolName)
    (replacement : UInt64) (i : Nat) (entry : GotEntry) : Prop where
  symbol_eq : entry.symbol = symbol
  slot_eq : entry.slot.toNat = scan.base.toNat + (offsetAt memory scan i).toNat
  slot_inside : Inside scan entry.slot 8
  original_eq : entry.original = word64At memory entry.slot
  original_ne_null : entry.original ≠ 0
  original_ne_replacement : entry.original ≠ replacement
  replacement_eq : entry.replacement = replacement
  page_eq : entry.page = entry.slot - entry.slot % entry.pageSize
  protection_nonneg : 0 ≤ entry.protection

/-! ## Safe programs -/

/-- Every recorded read is inside the module. -/
def ReadsInside (scan : GotScan) (log : List Access) : Prop :=
  ∀ access ∈ log, Inside scan access.address access.length

/-- The program reads only inside the module, and its result satisfies `Q`. -/
def Safe {α : Type} (memory : Memory) (scan : GotScan) (program : ElfProgram α)
    (Q : α → Prop) : Prop :=
  ∀ log, ReadsInside scan log →
    Ensures (answerElf memory) (ReadsInside scan) program (fun result _ => Q result) log

section Safe

variable {α β : Type} {memory : Memory} {scan : GotScan}

theorem safe_pure {result : α} {Q : α → Prop} (post : Q result) :
    Safe memory scan (pure result) Q :=
  fun _ inside => ensures_pure inside post

theorem Safe.bind {program : ElfProgram α} {rest : α → ElfProgram β} {P : α → Prop}
    {Q : β → Prop} (first : Safe memory scan program P)
    (second : ∀ result, P result → Safe memory scan (rest result) Q) :
    Safe memory scan (program >>= rest) Q :=
  fun log inside =>
    Ensures.bind (first log inside) fun result after inside' post =>
      second result post after inside'

theorem safe_readBytes {address : UInt64} {length : Nat} (inside : Inside scan address length) :
    Safe memory scan (readBytes address length) (· = bytesAt memory address length) := by
  intro log recorded
  apply ensures_perform recorded
  intro _
  refine ⟨?_, rfl⟩
  intro access member
  rcases List.mem_append.mp member with old | new
  · exact recorded access old
  · rw [List.mem_singleton.mp new]
    exact inside

theorem safe_read64 {address : UInt64} (inside : Inside scan address 8) :
    Safe memory scan (read64 address) (· = word64At memory address) := by
  apply (safe_readBytes inside).bind
  rintro _ rfl
  exact safe_pure rfl

theorem safe_read32 {address : UInt64} (inside : Inside scan address 4) :
    Safe memory scan (read32 address) (· = word32At memory address) := by
  apply (safe_readBytes inside).bind
  rintro _ rfl
  exact safe_pure rfl

theorem safe_sysconfPageSize : Safe memory scan sysconfPageSize fun _ => True :=
  fun _ recorded => ensures_perform recorded fun _ => ⟨recorded, trivial⟩

theorem safe_mappingProt {address : UInt64} :
    Safe memory scan (mappingProt address) fun _ => True :=
  fun _ recorded => ensures_perform recorded fun _ => ⟨recorded, trivial⟩

theorem Safe.run {program : ElfProgram α} {Q : α → Prop} (safe : Safe memory scan program Q)
    (choices : Nat → Int) :
    Q (program.run (answerElf memory) [] choices).1 ∧
      ReadsInside scan (program.run (answerElf memory) [] choices).2 := by
  have ensured := safe [] fun _ member => nomatch member
  exact ⟨ensured.run choices, ensured.run_inv choices⟩

end Safe

/-! ## One relocation -/

section Relocation

variable {memory : Memory} {scan : GotScan} {symbol : SymbolName} {replacement : UInt64} {i : Nat}

theorem SymbolName.toNat_len (symbol : SymbolName) :
    symbol.len.toNat = symbol.bytes.length + 1 := by
  rw [SymbolName.len, UInt64.toNat_ofNat', Nat.mod_eq_of_lt symbol.size_lt]

/-- The relocations of the table are inside the module. -/
theorem relaAddress_inside (resolved : scan.Resolved) (inTable : i < scan.jmprelCount.toNat) :
    Inside scan (relaAddress scan i) 24 := by
  have size_eq : relaSize.toNat = 24 := rfl
  obtain ⟨ph, member, contains⟩ := resolved
  have noWrap := contains.noWrap
  have le_stop := contains.le_stop
  rw [size_eq] at le_stop
  have offset_eq : (relaSize * UInt64.ofNat i).toNat = 24 * i := by
    rw [UInt64.toNat_mul, UInt64.toNat_ofNat', size_eq]
    omega
  refine Inside.sub ⟨ph, member, contains⟩ ?_
  rw [offset_eq, size_eq]
  omega

theorem safe_namesSymbol (inside : Inside scan (relaAddress scan i) 24) :
    Safe memory scan (namesSymbol scan symbol (relaAddress scan i))
      (· = true ↔ Names memory scan symbol i) := by
  have failed (no : ¬ Names memory scan symbol i) :
      Safe memory scan (pure false) (· = true ↔ Names memory scan symbol i) :=
    safe_pure (iff_of_false Bool.false_ne_true no)
  have info_inside : Inside scan (relaAddress scan i + 8) 8 := inside.sub (by decide)
  apply (safe_read64 info_inside).bind
  rintro _ rfl
  split_ifs with otherType symOutside
  · exact failed fun names => otherType names.jump_slot
  · refine failed fun names => ?_
    rw [Bool.not_eq_true', ← Bool.not_eq_true, inModule_iff] at symOutside
    exact symOutside names.sym_inside
  · rw [Bool.not_eq_true', Bool.not_eq_false, inModule_iff] at symOutside
    have stName_inside : Inside scan (symAddress scan (infoAt memory scan i)) 4 := by
      have sub := symOutside.sub (show (0 : UInt64).toNat + 4 ≤ symSize.toNat by decide)
      rwa [UInt64.add_zero] at sub
    apply (safe_read32 stName_inside).bind
    rintro _ rfl
    split_ifs with nameWraps nameOutside
    · refine failed fun names => ?_
      have small := names.name_lt
      rw [uintptrMax_sub_lt_iff] at nameWraps
      exact absurd small (Nat.not_lt.mpr nameWraps)
    · refine failed fun names => ?_
      rw [Bool.not_eq_true', ← Bool.not_eq_true, inModule_iff, symbol.toNat_len] at nameOutside
      exact nameOutside names.name_inside
    · rw [Bool.not_eq_true', Bool.not_eq_false, inModule_iff, symbol.toNat_len] at nameOutside
      rw [uintptrMax_sub_lt_iff] at nameWraps
      apply (safe_readBytes nameOutside).bind
      rintro _ rfl
      apply safe_pure
      rw [decide_eq_true_iff]
      constructor
      · intro same
        exact ⟨not_not.mp otherType, symOutside, Nat.lt_of_not_le nameWraps, nameOutside, same⟩
      · intro names
        exact names.name_eq

theorem safe_entryOfSlot {slot : UInt64} (inside : Inside scan slot 8)
    (slot_eq : slot.toNat = scan.base.toNat + (offsetAt memory scan i).toNat) :
    Safe memory scan (entryOfSlot symbol replacement slot)
      fun found => ∀ entry, found = some entry →
        DescribesSlot memory scan symbol replacement i entry := by
  have refused : Safe memory scan (pure none) fun found => ∀ entry, found = some entry →
      DescribesSlot memory scan symbol replacement i entry :=
    safe_pure fun _ absent => nomatch absent
  apply safe_sysconfPageSize.bind
  intro size _
  split_ifs with noPageSize
  · exact refused
  · apply safe_mappingProt.bind
    intro protection _
    split_ifs with unmapped
    · exact refused
    · apply (safe_read64 inside).bind
      intro original original_eq
      split_ifs with unusable
      · exact refused
      · apply safe_pure
        rintro entry ⟨⟩
        exact
          { symbol_eq := rfl
            slot_eq
            slot_inside := inside
            original_eq
            original_ne_null := fun null => unusable (.inl null)
            original_ne_replacement := fun hooked => unusable (.inr hooked)
            replacement_eq := rfl
            page_eq := rfl
            protection_nonneg := Int.not_lt.mp unmapped }

theorem safe_entryAt (inside : Inside scan (relaAddress scan i) 24) :
    Safe memory scan (entryAt scan symbol replacement (relaAddress scan i))
      fun found => ∀ entry, found = some entry →
        DescribesSlot memory scan symbol replacement i entry := by
  have offset_inside : Inside scan (relaAddress scan i) 8 := by
    have sub := inside.sub (show (0 : UInt64).toNat + 8 ≤ 24 by decide)
    rwa [UInt64.add_zero] at sub
  apply (safe_read64 offset_inside).bind
  intro offset offset_eq
  split_ifs with slotWraps slotOutside
  · exact safe_pure fun _ absent => nomatch absent
  · exact safe_pure fun _ absent => nomatch absent
  · rw [uintptrMax_sub_lt_iff, Nat.not_le] at slotWraps
    rw [Bool.not_eq_true', Bool.not_eq_false, inModule_iff] at slotOutside
    apply safe_entryOfSlot slotOutside
    rw [toNat_add_of_lt slotWraps, offset_eq]
    rfl

end Relocation

/-! ## The table -/

section Table

variable {memory : Memory} {scan : GotScan} {symbol : SymbolName} {replacement : UInt64}

/-- Among the first `count` relocations exactly one names the symbol, and the entry
describes its slot. -/
def FoundUnique (memory : Memory) (scan : GotScan) (symbol : SymbolName) (replacement : UInt64)
    (count : Nat) (entry : GotEntry) : Prop :=
  ∃ i < count, (∀ j < count, Names memory scan symbol j ↔ j = i) ∧
    DescribesSlot memory scan symbol replacement i entry

/-- What is known of the first `count` relocations when `found` is the entry so far. -/
structure Scanned (memory : Memory) (scan : GotScan) (symbol : SymbolName)
    (replacement : UInt64) (count : Nat) (found : Option GotEntry) : Prop where
  absent : found = none → ∀ i < count, ¬ Names memory scan symbol i
  unique : ∀ entry, found = some entry →
    FoundUnique memory scan symbol replacement count entry

theorem scanned_zero : Scanned memory scan symbol replacement 0 none :=
  ⟨fun _ _ lt => absurd lt (Nat.not_lt_zero _), fun _ absent => nomatch absent⟩

theorem Scanned.skip {count : Nat} {found : Option GotEntry}
    (scanned : Scanned memory scan symbol replacement count found)
    (other : ¬ Names memory scan symbol count) :
    Scanned memory scan symbol replacement (count + 1) found := by
  constructor
  · intro none_found i lt
    rcases Nat.lt_succ_iff_lt_or_eq.mp lt with earlier | rfl
    · exact scanned.absent none_found i earlier
    · exact other
  · intro entry some_found
    obtain ⟨i, lt, unique, describes⟩ := scanned.unique entry some_found
    refine ⟨i, Nat.lt_succ_of_lt lt, ?_, describes⟩
    intro j lt'
    rcases Nat.lt_succ_iff_lt_or_eq.mp lt' with earlier | rfl
    · exact unique j earlier
    · exact iff_of_false other (Nat.ne_of_gt lt)

theorem Scanned.add {count : Nat} {entry : GotEntry}
    (scanned : Scanned memory scan symbol replacement count none)
    (names : Names memory scan symbol count)
    (describes : DescribesSlot memory scan symbol replacement count entry) :
    Scanned memory scan symbol replacement (count + 1) (some entry) := by
  refine ⟨fun absent => (nomatch absent), ?_⟩
  rintro _ ⟨⟩
  refine ⟨count, Nat.lt_succ_self count, ?_, describes⟩
  intro j lt
  rcases Nat.lt_succ_iff_lt_or_eq.mp lt with earlier | rfl
  · exact iff_of_false (scanned.absent rfl j earlier) (Nat.ne_of_lt earlier)
  · exact iff_of_true names rfl

theorem safe_findGotLoop (resolved : scan.Resolved) {remaining i : Nat} {found : Option GotEntry}
    (total : i + remaining = scan.jmprelCount.toNat)
    (scanned : Scanned memory scan symbol replacement i found) :
    Safe memory scan (findGotLoop scan symbol replacement remaining i found)
      fun result => ∀ entry, result = some entry →
        FoundUnique memory scan symbol replacement scan.jmprelCount.toNat entry := by
  induction remaining generalizing i found with
  | zero =>
      rw [Nat.add_zero] at total
      subst total
      exact safe_pure scanned.unique
  | succ remaining ih =>
      have inside : Inside scan (relaAddress scan i) 24 :=
        relaAddress_inside resolved (by omega)
      have total' : i + 1 + remaining = scan.jmprelCount.toNat := by omega
      have refused : Safe memory scan (pure none) fun result => ∀ entry, result = some entry →
          FoundUnique memory scan symbol replacement scan.jmprelCount.toNat entry :=
        safe_pure fun _ absent => nomatch absent
      apply (safe_namesSymbol inside).bind
      intro named named_iff
      cases named with
      | false =>
          have other : ¬ Names memory scan symbol i :=
            fun names => Bool.false_ne_true (named_iff.mpr names)
          exact ih total' (scanned.skip other)
      | true =>
          apply (safe_entryAt inside).bind
          intro gathered describes
          cases gathered with
          | none => exact refused
          | some entry =>
              cases found with
              | some earlier => exact refused
              | none =>
                  exact ih total' (scanned.add (named_iff.mp rfl) (describes entry rfl))

theorem safe_findGotEntry (resolved : scan.Resolved) :
    Safe memory scan (findGotEntry scan symbol replacement)
      fun result => ∀ entry, result = some entry →
        FoundUnique memory scan symbol replacement scan.jmprelCount.toNat entry :=
  safe_findGotLoop resolved (Nat.zero_add _) scanned_zero

end Table

/-! ## The installation's view -/

section Refinement

variable {memory : Memory} {scan : GotScan} {name : SymbolName} {replacement : UInt64}
  {layout : Layout} {process : Process} {symbol : GotSymbol} {decode : UInt64 → CodePtr}

/-- `decode` tells the null word and the hook of the symbol from every other word. -/
structure Distinguishes (decode : UInt64 → CodePtr) (symbol : GotSymbol)
    (replacement : UInt64) : Prop where
  null : ∀ word, decode word = .null → word = 0
  hook : ∀ word, decode word = hookOf symbol → word = replacement

/-- The process has the slot where the lookup found it, with the same contents. -/
structure Agrees (decode : UInt64 → CodePtr) (layout : Layout) (process : Process)
    (symbol : GotSymbol) (entry : GotEntry) : Prop where
  slot : layout.slot symbol = entry.slot.toNat
  pageSize : layout.pageSize = entry.pageSize.toNat
  original : process.got (layout.slot symbol) = decode entry.original

/-- The entry of the installation stands for the entry of the lookup. -/
structure Represents (decode : UInt64 → CodePtr) (entry : GotEntry) (abstract : Got.GotEntry) :
    Prop where
  slot : abstract.slot = entry.slot.toNat
  page : abstract.page = entry.page.toNat
  pageSize : abstract.pageSize = entry.pageSize.toNat
  original : abstract.original = decode entry.original

/-- The page of a slot is the same computed on words and on natural numbers. -/
theorem toNat_sub_mod (slot pageSize : UInt64) :
    (slot - slot % pageSize).toNat = slot.toNat - slot.toNat % pageSize.toNat := by
  have le : slot % pageSize ≤ slot := by
    rw [UInt64.le_iff_toNat_le, UInt64.toNat_mod]
    exact Nat.mod_le _ _
  rw [UInt64.toNat_sub_of_le _ _ le, UInt64.toNat_mod]

/-- Every outcome of the lookup is an outcome of the call that the installation makes. -/
theorem lookup_refines (resolved : scan.Resolved)
    (distinguishes : Distinguishes decode symbol replacement) (answers : Nat → Int)
    (agrees : ∀ entry, (lookup memory answers scan name replacement).1 = some entry →
      Agrees decode layout process symbol entry) :
    ∃ works, Option.Rel (Represents decode) (lookup memory answers scan name replacement).1
      ((Got.findGotEntry symbol (hookOf symbol)).run (answer layout) process works).1 := by
  cases outcome : (lookup memory answers scan name replacement).1 with
  | none => exact ⟨fun _ => false, .none⟩
  | some entry =>
      have agreed := agrees entry outcome
      have safe : Safe memory scan (findGotEntry scan name replacement) _ :=
        safe_findGotEntry resolved
      obtain ⟨i, -, -, describes⟩ := (safe.run answers).1 entry outcome
      have usable : ¬ (process.got (layout.slot symbol) = .null ∨
          process.got (layout.slot symbol) = hookOf symbol) := by
        rw [agreed.original]
        rintro (null | hooked)
        · exact describes.original_ne_null (distinguishes.null _ null)
        · exact describes.original_ne_replacement (distinguishes.hook _ hooked)
      refine ⟨fun _ => true, ?_⟩
      -- the replies that work leave only the test of the original value
      change Option.Rel _ _ (Program.run (answer layout) (dite _ _ _) process _).1
      rw [dif_neg usable]
      refine .some ?_
      exact
        { slot := agreed.slot
          page := by
            rw [describes.page_eq, toNat_sub_mod, ← agreed.slot, ← agreed.pageSize]
          pageSize := agreed.pageSize
          original := agreed.original }

end Refinement

/-! ## The specification of the lookup -/

/-- After a successful scan of the library, the lookup reads nothing outside its loaded
segments and yields an entry only for the one relocation that names the symbol.  The
range check behind it is exact. -/
theorem got_slot_resolution {info : DlPhdrInfo} {soname : String} {scan : GotScan}
    (scanned : gotScanCallback info { soname } = (scan, true)) (found : scan.found = true)
    (memory : Memory) (answers : Nat → Int) (symbol : SymbolName) (replacement : UInt64) :
    (∀ (table : GotScan) (addr len : UInt64),
        inModule table addr len = true ↔ Inside table addr len.toNat) ∧
      (∀ access ∈ (lookup memory answers scan symbol replacement).2,
        Inside scan access.address access.length) ∧
      ∀ entry, (lookup memory answers scan symbol replacement).1 = some entry →
        FoundUnique memory scan symbol replacement scan.jmprelCount.toNat entry := by
  have resolved : scan.Resolved := by
    have unset : ({ soname } : GotScan).found = false := rfl
    have callback : (gotScanCallback info { soname }).1.found = true →
        (gotScanCallback info { soname }).1.Resolved := gotScanCallback_resolved unset
    rw [scanned] at callback
    exact callback found
  obtain ⟨unique, inside⟩ := (safe_findGotEntry resolved).run answers
  exact ⟨fun _ _ _ => inModule_iff, inside, unique⟩

/-- A library with one segment, loaded at 0x1000, that imports the function `R`. -/
def oneImport : DlPhdrInfo where
  dlpiName := some "/vendor/lib64/libr.so"
  dlpiAddr := 0x1000
  dlpiPhdr := [⟨.load, 0, 0x100⟩, ⟨.dynamic, 0xc0, 0x40⟩]
  dynamic _ := [⟨.jmprel, 0x10⟩, ⟨.pltrelsz, 24⟩, ⟨.pltrel, 7⟩, ⟨.symtab, 0x40⟩, ⟨.strtab, 0x80⟩]

/-- Its memory: the relocation, the second symbol, the string table and the slot. -/
def oneImportMemory : Memory := fun address =>
  if address = 0x1010 then 0xa0
  else if address = 0x1018 then 2
  else if address = 0x1019 then 4
  else if address = 0x101c then 1
  else if address = 0x1058 then 1
  else if address = 0x1081 then 0x52
  else if address = 0x10a1 then 0x77
  else 0

def symbolR : SymbolName := ⟨[0x52], by decide, by decide⟩

theorem got_slot_resolution_oneImport :
    ∃ scan entry, gotScanCallback oneImport { soname := "libr.so" } = (scan, true) ∧
      scan.found = true ∧
      (lookup oneImportMemory (fun _ => 4096) scan symbolR 0x9000).1 = some entry ∧
      entry.slot = 0x10a0 ∧ entry.original = 0x7700 ∧
      FoundUnique oneImportMemory scan symbolR 0x9000 scan.jmprelCount.toNat entry := by
  have scanned : gotScanCallback oneImport { soname := "libr.so" } =
      ((gotScanCallback oneImport { soname := "libr.so" }).1, true) := rfl
  have outcome : (lookup oneImportMemory (fun _ => 4096)
      (gotScanCallback oneImport { soname := "libr.so" }).1 symbolR 0x9000).1 =
      some ⟨symbolR, 0x10a0, 0x7700, 0x9000, 0x1000, 0x1000, 4096⟩ := rfl
  have spec := got_slot_resolution scanned rfl oneImportMemory (fun _ => 4096) symbolR 0x9000
  exact ⟨_, _, scanned, rfl, outcome, rfl, rfl, spec.2.2 _ outcome⟩

end K50sv1.RilShim.Got.Elf
