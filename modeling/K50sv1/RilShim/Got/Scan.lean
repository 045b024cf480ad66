import K50sv1.RilShim.Got.Core
import Mathlib.Algebra.GroupWithZero.Nat

/-!
# Finding the tables of a loaded library

`inModule`, `resolveDynPtr` and `gotScanCallback` over the program headers and the
dynamic section that the linker reports for a library.  Addresses are 64-bit words
and their sums wrap as they do on the device; the specification of `inModule` is in
terms of natural numbers, where nothing wraps.
-/

namespace K50sv1.RilShim.Got.Elf

/-! ## Program headers -/

inductive PhdrType where
  | load
  | dynamic
  | other
  deriving DecidableEq, Repr

structure Phdr where
  pType : PhdrType
  pVaddr : UInt64
  pMemsz : UInt64
  deriving DecidableEq, Repr

/-- The tags of the dynamic section that the scan reads. -/
inductive DynTag where
  | jmprel
  | pltrelsz
  | symtab
  | strtab
  | pltrel
  | other
  deriving DecidableEq, Repr

structure Dyn where
  dTag : DynTag
  dUn : UInt64
  deriving DecidableEq, Repr

/-- `struct dl_phdr_info`.  The dynamic section at an address is the list of its
entries before `DT_NULL`. -/
structure DlPhdrInfo where
  dlpiName : Option String
  dlpiAddr : UInt64
  dlpiPhdr : List Phdr
  dynamic : UInt64 → List Dyn

structure GotScan where
  soname : String
  base : UInt64 := 0
  phdr : List Phdr := []
  jmprel : UInt64 := 0
  jmprelCount : UInt64 := 0
  symtab : UInt64 := 0
  strtab : UInt64 := 0
  found : Bool := false
  deriving DecidableEq, Repr

def uintptrMax : UInt64 := 0xffffffffffffffff

/-- `sizeof(ElfW(Rela))`. -/
def relaSize : UInt64 := 24

/-- `sizeof(ElfW(Sym))`. -/
def symSize : UInt64 := 24

/-- `DT_RELA`, as the value of `DT_PLTREL`. -/
def dtRela : UInt64 := 7

/-! ## Range checks -/

/-- One iteration of `inModule`. -/
def inSegment (base : UInt64) (ph : Phdr) (addr len : UInt64) : Bool :=
  if ph.pType ≠ .load then
    false
  else if ph.pVaddr > uintptrMax - base then
    false
  else
    let start := base + ph.pVaddr
    if ph.pMemsz > uintptrMax - start then
      false
    else
      let stop := start + ph.pMemsz
      addr ≥ start && addr ≤ stop && len ≤ stop - addr

def inModule (scan : GotScan) (addr len : UInt64) : Bool :=
  scan.phdr.any fun ph => inSegment scan.base ph addr len

/-- A runtime address for one `DT_*` pointer, or 0. -/
def resolveDynPtr (scan : GotScan) (value len : UInt64) : UInt64 :=
  if value ≤ uintptrMax - scan.base && inModule scan (scan.base + value) len then
    scan.base + value
  else if inModule scan value len then
    value
  else
    0

/-- A loaded segment contains the `length` bytes at `address`.  The segment is the
range of natural numbers from its start to its end, which is no address above the
top of the address space. -/
structure Phdr.Contains (base : UInt64) (ph : Phdr) (address length : Nat) : Prop where
  load : ph.pType = .load
  noWrap : base.toNat + ph.pVaddr.toNat + ph.pMemsz.toNat < 2 ^ 64
  start_le : base.toNat + ph.pVaddr.toNat ≤ address
  le_stop : address + length ≤ base.toNat + ph.pVaddr.toNat + ph.pMemsz.toNat

/-- Some loaded segment contains the range. -/
def Inside (scan : GotScan) (address : UInt64) (length : Nat) : Prop :=
  ∃ ph ∈ scan.phdr, ph.Contains scan.base address.toNat length

theorem toNat_uintptrMax_sub (word : UInt64) :
    (uintptrMax - word).toNat = 2 ^ 64 - 1 - word.toNat := by
  have small := word.toNat_lt
  have le : word ≤ uintptrMax := by
    rw [UInt64.le_iff_toNat_le]
    exact Nat.le_of_lt_succ small
  rw [UInt64.toNat_sub_of_le _ _ le]
  rfl

/-- The guard in front of each sum of addresses is exact. -/
theorem uintptrMax_sub_lt_iff {base offset : UInt64} :
    offset > uintptrMax - base ↔ 2 ^ 64 ≤ base.toNat + offset.toNat := by
  have small := base.toNat_lt
  rw [gt_iff_lt, UInt64.lt_iff_toNat_lt, toNat_uintptrMax_sub]
  omega

theorem toNat_add_of_lt {base offset : UInt64}
    (small : base.toNat + offset.toNat < 2 ^ 64) :
    (base + offset).toNat = base.toNat + offset.toNat := by
  rw [UInt64.toNat_add, Nat.mod_eq_of_lt small]

/-- The comparisons with the ends of a segment, the last of which cannot wrap. -/
theorem within_iff {start stop addr len : UInt64} :
    (addr ≥ start && addr ≤ stop && len ≤ stop - addr) = true ↔
      start.toNat ≤ addr.toNat ∧ addr.toNat + len.toNat ≤ stop.toNat := by
  simp only [Bool.and_eq_true, decide_eq_true_eq, ge_iff_le, UInt64.le_iff_toNat_le]
  constructor
  · rintro ⟨⟨start_le, le_stop⟩, fits⟩
    rw [UInt64.toNat_sub_of_le _ _ (UInt64.le_iff_toNat_le.2 le_stop)] at fits
    exact ⟨start_le, by omega⟩
  · rintro ⟨start_le, le_stop⟩
    have addr_le : addr.toNat ≤ stop.toNat := by omega
    refine ⟨⟨start_le, addr_le⟩, ?_⟩
    rw [UInt64.toNat_sub_of_le _ _ (UInt64.le_iff_toNat_le.2 addr_le)]
    omega

theorem inSegment_iff {base : UInt64} {ph : Phdr} {addr len : UInt64} :
    inSegment base ph addr len = true ↔ ph.Contains base addr.toNat len.toNat := by
  unfold inSegment
  dsimp only
  by_cases load : ph.pType = .load
  · rw [if_neg (not_not.mpr load)]
    by_cases start_lt : base.toNat + ph.pVaddr.toNat < 2 ^ 64
    · have start_eq := toNat_add_of_lt start_lt
      rw [if_neg (by rw [uintptrMax_sub_lt_iff]; omega)]
      by_cases stop_lt : base.toNat + ph.pVaddr.toNat + ph.pMemsz.toNat < 2 ^ 64
      · rw [if_neg (by rw [uintptrMax_sub_lt_iff, start_eq]; omega)]
        have stop_eq : (base + ph.pVaddr + ph.pMemsz).toNat =
            base.toNat + ph.pVaddr.toNat + ph.pMemsz.toNat := by
          rw [toNat_add_of_lt (by omega), start_eq]
        rw [within_iff, start_eq, stop_eq]
        constructor
        · rintro ⟨start_le, le_stop⟩
          exact ⟨load, stop_lt, start_le, le_stop⟩
        · rintro ⟨-, -, start_le, le_stop⟩
          exact ⟨start_le, le_stop⟩
      · rw [if_pos (by rw [uintptrMax_sub_lt_iff, start_eq]; omega)]
        exact iff_of_false Bool.false_ne_true fun contains => stop_lt contains.noWrap
    · rw [if_pos (by rw [uintptrMax_sub_lt_iff]; omega)]
      refine iff_of_false Bool.false_ne_true fun contains => ?_
      have noWrap := contains.noWrap
      omega
  · rw [if_pos load]
    exact iff_of_false Bool.false_ne_true fun contains => load contains.load

theorem inModule_iff {scan : GotScan} {addr len : UInt64} :
    inModule scan addr len = true ↔ Inside scan addr len.toNat := by
  simp only [inModule, List.any_eq_true, inSegment_iff, Inside]

/-- A part of a range inside the module is inside the module, and its address does not
wrap. -/
theorem Inside.sub {scan : GotScan} {address offset : UInt64} {length part : Nat}
    (inside : Inside scan address length) (fits : offset.toNat + part ≤ length) :
    Inside scan (address + offset) part := by
  obtain ⟨ph, member, contains⟩ := inside
  have noWrap := contains.noWrap
  have start_le := contains.start_le
  have le_stop := contains.le_stop
  have sum : (address + offset).toNat = address.toNat + offset.toNat :=
    toNat_add_of_lt (by omega)
  exact ⟨ph, member, contains.load, noWrap, by omega, by omega⟩

/-- A pointer that resolves is the start of a range inside the module. -/
theorem resolveDynPtr_inside {scan : GotScan} {value len : UInt64}
    (resolved : resolveDynPtr scan value len ≠ 0) :
    Inside scan (resolveDynPtr scan value len) len.toNat := by
  unfold resolveDynPtr at resolved ⊢
  split_ifs at resolved ⊢ with biased raw
  · rw [Bool.and_eq_true] at biased
    exact inModule_iff.mp biased.2
  · exact inModule_iff.mp raw
  · exact absurd rfl resolved

/-! ## The callback -/

/-- What follows the last slash of a path. -/
def baseName (path : String) : String :=
  String.ofList (path.toList.reverse.takeWhile (· ≠ '/')).reverse

/-- The values collected from the dynamic section. -/
structure DynValues where
  jmprel : UInt64 := 0
  pltrelsz : UInt64 := 0
  symtab : UInt64 := 0
  strtab : UInt64 := 0
  deriving DecidableEq, Repr

/-- The loop over the dynamic section; `none` if the PLT is not RELA. -/
def readDynamic : List Dyn → DynValues → Option DynValues
  | [], values => some values
  | dyn :: rest, values =>
      match dyn.dTag with
      | .jmprel => readDynamic rest { values with jmprel := dyn.dUn }
      | .pltrelsz => readDynamic rest { values with pltrelsz := dyn.dUn }
      | .symtab => readDynamic rest { values with symtab := dyn.dUn }
      | .strtab => readDynamic rest { values with strtab := dyn.dUn }
      | .pltrel => if dyn.dUn ≠ dtRela then none else readDynamic rest values
      | .other => readDynamic rest values

/-- The address of the first `PT_DYNAMIC`, or 0. -/
def dynamicAddress (base : UInt64) (phdr : List Phdr) : UInt64 :=
  match phdr.find? fun ph => ph.pType = .dynamic with
  | none => 0
  | some ph => base + ph.pVaddr

/-- The end of `gotScanCallback`, from the check of `DT_PLTRELSZ` on. -/
def resolveTables (scan : GotScan) (values : DynValues) : GotScan :=
  if values.pltrelsz = 0 || values.pltrelsz % relaSize ≠ 0 then
    scan
  else
    let jmprel := resolveDynPtr scan values.jmprel values.pltrelsz
    -- the extent of the symbol table is not known; each entry is checked on use
    let symtab := resolveDynPtr scan values.symtab symSize
    let strtab := resolveDynPtr scan values.strtab 1
    { scan with
      jmprel, symtab, strtab
      jmprelCount := values.pltrelsz / relaSize
      found := jmprel ≠ 0 && symtab ≠ 0 && strtab ≠ 0 }

/-- The scan after the callback and whether the iteration over the libraries ends. -/
def gotScanCallback (info : DlPhdrInfo) (scan : GotScan) : GotScan × Bool :=
  match info.dlpiName with
  | none => (scan, false)
  | some path =>
      if baseName path ≠ scan.soname then
        (scan, false)
      else
        let located := { scan with base := info.dlpiAddr, phdr := info.dlpiPhdr }
        let dyn := dynamicAddress info.dlpiAddr info.dlpiPhdr
        if dyn = 0 then
          (located, true)
        else
          match readDynamic (info.dynamic dyn) {} with
          | none => (located, true)
          | some values => (resolveTables located values, true)

/-- The relocation table is inside the module. -/
def GotScan.Resolved (scan : GotScan) : Prop :=
  Inside scan scan.jmprel (relaSize.toNat * scan.jmprelCount.toNat)

theorem resolveTables_resolved {scan : GotScan} {values : DynValues}
    (unset : scan.found = false) :
    (resolveTables scan values).found = true → (resolveTables scan values).Resolved := by
  unfold resolveTables
  split_ifs with malformed
  · intro found
    rw [unset] at found
    exact absurd found Bool.false_ne_true
  · intro found
    simp only [Bool.or_eq_true, decide_eq_true_eq, not_or, not_not] at malformed
    simp only [Bool.and_eq_true, decide_eq_true_eq] at found
    have inside := resolveDynPtr_inside found.1.1
    have whole : relaSize.toNat * (values.pltrelsz / relaSize).toNat = values.pltrelsz.toNat := by
      rw [UInt64.toNat_div]
      apply Nat.mul_div_cancel'
      apply Nat.dvd_of_mod_eq_zero
      rw [← UInt64.toNat_mod, malformed.2]
      rfl
    unfold GotScan.Resolved
    dsimp only
    rw [whole]
    exact inside

/-- A scan that found the library has its relocation table in the library. -/
theorem gotScanCallback_resolved {info : DlPhdrInfo} {scan : GotScan}
    (unset : scan.found = false) :
    (gotScanCallback info scan).1.found = true → (gotScanCallback info scan).1.Resolved := by
  have unchanged {after : GotScan} (same : after.found = scan.found) :
      after.found = true → after.Resolved := by
    intro found
    rw [same, unset] at found
    exact absurd found Bool.false_ne_true
  unfold gotScanCallback
  cases info.dlpiName with
  | none => exact unchanged rfl
  | some path =>
      dsimp only
      split_ifs with otherName noDynamic
      · exact unchanged rfl
      · exact unchanged rfl
      · cases readDynamic (info.dynamic (dynamicAddress info.dlpiAddr info.dlpiPhdr)) {} with
        | none => exact unchanged rfl
        | some values => exact resolveTables_resolved unset

end K50sv1.RilShim.Got.Elf
