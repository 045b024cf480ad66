import K50sv1.Data.HexText
import K50sv1.Data.LineReader
import K50sv1.RilShim.Got.Core

/-!
# The protection of an address, from `/proc/self/maps`

`mappingProt` reads the kernel's table of mappings with `fgets` and `sscanf`.  It finds the
protection of the mapping that contains the address for every table that the kernel can
print, whatever stands behind the permissions of a mapping, and lines that do not fit into
the buffer among them.
-/

namespace K50sv1.RilShim.Maps

open K50sv1.Data.CText
open K50sv1.Data.LineReader
open K50sv1.RilShim.Got (Layout Protection)

/-! ## The reader -/

/-- `sizeof(line)`. -/
def lineSize : Nat := 512

/-- The most bytes that `%7s` stores before the terminator. -/
def permsWidth : Nat := 7

/-- A line of the table as far as it is read. -/
structure MapsEntry where
  start : Nat
  stop : Nat
  /-- What `%7s` has read. -/
  perms : List UInt8
  deriving DecidableEq, Repr

/-- The conversion `%7s`, which fails at the end of the text. -/
def scanPerms (text : List UInt8) : Option (List UInt8) :=
  let field := (text.dropWhile isSpace).takeWhile fun byte => !isSpace byte
  if field = [] then none else some (field.take permsWidth)

/-- `sscanf(line, "%llx-%llx %7s", ..) == 3`. -/
def scanEntry (line : List UInt8) : Option MapsEntry :=
  match scanHex line with
  | some (start, 0x2d :: rest) =>
      match scanHex rest with
      | some (stop, rest) => (scanPerms rest).map fun perms => ⟨start, stop, perms⟩
      | none => none
  | _ => none

/-- The array `perms` of which `%7s` has written the first bytes and the terminator; the
others are what the stack held. -/
def permsArray (perms stack : List UInt8) : List UInt8 :=
  perms ++ 0 :: stack.drop (perms.length + 1)

/-- The `PROT_*` bits of the permissions. -/
def protOf (perms : List UInt8) : Protection where
  read := perms[0]? = some 0x72
  write := perms[1]? = some 0x77
  exec := perms[2]? = some 0x78

/-- The body of the loop for one piece of the file: the piece is a C string. -/
def checkLine (address : Nat) (stack piece : List UInt8) : Option Protection :=
  match scanEntry (piece.takeWhile fun byte => byte ≠ 0) with
  | none => none
  | some entry =>
      if address < entry.start ∨ entry.stop ≤ address then none
      else some (protOf (permsArray entry.perms stack))

/-- `mappingProt`; `none` stands for a file that cannot be opened, and for the result -1. -/
def mappingProt (stack : List UInt8) (maps : Option (List UInt8)) (address : Nat) :
    Option Protection :=
  match maps with
  | none => none
  | some text => (reads (lineSize - 1) text).findSome? (checkLine address stack)

/-! ## The kernel's table -/

/-- A mapping.  The offset, the device, the inode and the path are never looked at. -/
structure Mapping where
  start : Nat
  stop : Nat
  protection : Protection
  shared : Bool
  /-- The rest of the line. -/
  tail : List UInt8
  start_le : start ≤ 0xffffffffffffffff
  stop_le : stop ≤ 0xffffffffffffffff
  tail_line : newline ∉ tail

namespace Mapping

def contains (mapping : Mapping) (address : Nat) : Bool :=
  mapping.start ≤ address && address < mapping.stop

/-- The permissions, such as `r-xp`. -/
def perms (mapping : Mapping) : List UInt8 :=
  [if mapping.protection.read then 0x72 else 0x2d, if mapping.protection.write then 0x77 else 0x2d,
    if mapping.protection.exec then 0x78 else 0x2d, if mapping.shared then 0x73 else 0x70]

/-- The addresses and the permissions of a line. -/
def head (mapping : Mapping) : List UInt8 :=
  hexText 8 mapping.start ++ 0x2d :: (hexText 8 mapping.stop ++ 0x20 :: (mapping.perms ++ [0x20]))

/-- The line of a mapping. -/
def line (mapping : Mapping) : List UInt8 :=
  mapping.head ++ (mapping.tail ++ [newline])

/-- The pieces of a line behind the first; there are none if the line fits into the buffer. -/
def continuations (mapping : Mapping) : List (List UInt8) :=
  (reads (lineSize - 1) mapping.line).tail

/-- Nothing behind the first piece of the line looks like a mapping. -/
def Quiet (mapping : Mapping) : Prop :=
  ∀ piece ∈ mapping.continuations, scanEntry (piece.takeWhile fun byte => byte ≠ 0) = none

end Mapping

/-! ## A line is read back -/

section Line

variable (mapping : Mapping)

theorem Mapping.head_length_le : mapping.head.length ≤ lineSize - 1 := by
  have start := length_hexText_le (show 8 ≤ 16 by decide) mapping.start_le
  have stop := length_hexText_le (show 8 ≤ 16 by decide) mapping.stop_le
  simp only [Mapping.head, Mapping.perms, List.length_append, List.length_cons, List.length_nil,
    lineSize]
  omega

/-- The bytes of the addresses and of the permissions are digits, blanks, signs and
letters. -/
theorem Mapping.mem_head {byte : UInt8} (member : byte ∈ mapping.head) :
    byte ≠ newline ∧ byte ≠ 0 := by
  have digit : isXDigit byte = true → byte ≠ newline ∧ byte ≠ 0 := by
    intro digit
    constructor
    · rintro rfl
      cases digit
    · rintro rfl
      cases digit
  have choice : ∀ {test : Bool} {first second : UInt8}, byte = (if test then first else second) →
      byte = first ∨ byte = second := by
    intro test first second same
    cases test
    · exact .inr same
    · exact .inl same
  simp only [Mapping.head, Mapping.perms, List.mem_append, List.mem_cons, List.not_mem_nil,
    or_false] at member
  rcases member with start | rfl | stop | rfl | (read | write | exec | shared) | rfl
  · exact digit (isXDigit_of_mem_hexText start)
  · decide
  · exact digit (isXDigit_of_mem_hexText stop)
  · decide
  · rcases choice read with rfl | rfl <;> decide
  · rcases choice write with rfl | rfl <;> decide
  · rcases choice exec with rfl | rfl <;> decide
  · rcases choice shared with rfl | rfl <;> decide
  · decide

theorem scanPerms_perms (rest : List UInt8) :
    scanPerms (0x20 :: (mapping.perms ++ 0x20 :: rest)) = some mapping.perms := by
  unfold Mapping.perms
  cases mapping.protection.read <;> cases mapping.protection.write <;>
    cases mapping.protection.exec <;> cases mapping.shared <;> rfl

theorem scanEntry_head (rest : List UInt8) :
    scanEntry (mapping.head ++ rest) = some ⟨mapping.start, mapping.stop, mapping.perms⟩ := by
  let permissions := 0x20 :: (mapping.perms ++ 0x20 :: rest)
  let addresses := 0x2d :: (hexText 8 mapping.stop ++ permissions)
  have text : mapping.head ++ rest = hexText 8 mapping.start ++ addresses := by
    simp [Mapping.head, addresses, permissions]
  have first : scanHex (hexText 8 mapping.start ++ addresses) =
      some (mapping.start, addresses) := by
    refine scanHex_hexText mapping.start_le ?_
    intro next member
    obtain rfl := Option.some.inj member
    decide
  have second : scanHex (hexText 8 mapping.stop ++ permissions) =
      some (mapping.stop, permissions) := by
    refine scanHex_hexText mapping.stop_le ?_
    intro next member
    obtain rfl := Option.some.inj member
    decide
  rw [text, scanEntry, first]
  simp only [addresses, second]
  rw [scanPerms_perms, Option.map_some]

theorem protOf_perms (stack : List UInt8) :
    protOf (permsArray mapping.perms stack) = mapping.protection := by
  obtain ⟨start, stop, ⟨read, write, exec⟩, shared, tail, -, -, -⟩ := mapping
  cases read <;> cases write <;> cases exec <;> cases shared <;> rfl

/-- A piece that begins with the addresses and the permissions. -/
theorem checkLine_head (address : Nat) (stack rest : List UInt8) :
    checkLine address stack (mapping.head ++ rest) =
      if mapping.contains address then some mapping.protection else none := by
  have string : (mapping.head ++ rest).takeWhile (fun byte => byte ≠ 0) =
      mapping.head ++ rest.takeWhile fun byte => byte ≠ 0 :=
    List.takeWhile_append_of_pos fun byte member => by simp [(mapping.mem_head member).2]
  rw [checkLine, string, scanEntry_head]
  dsimp only
  rw [protOf_perms]
  by_cases inside : mapping.contains address = true
  · have bounds : ¬(address < mapping.start ∨ mapping.stop ≤ address) := by
      simp only [Mapping.contains, Bool.and_eq_true, decide_eq_true_eq] at inside
      omega
    rw [if_neg bounds, if_pos inside]
  · have bounds : address < mapping.start ∨ mapping.stop ≤ address := by
      simp only [Mapping.contains, Bool.and_eq_true, decide_eq_true_eq] at inside
      omega
    rw [if_pos bounds, if_neg inside]

theorem Mapping.terminated_line : Terminated mapping.line := by
  rw [Mapping.line, ← List.append_assoc]
  exact terminated_concat _

/-- The first piece of a line has all of the addresses and the permissions. -/
theorem Mapping.reads_line : ∃ rest, reads (lineSize - 1) mapping.line =
    (mapping.head ++ rest) :: mapping.continuations := by
  have nonempty : mapping.line ≠ [] := by simp [Mapping.line]
  obtain ⟨byte, text, line_eq⟩ := List.exists_cons_of_ne_nil nonempty
  have pieces : reads (lineSize - 1) mapping.line = (fgets (lineSize - 1) mapping.line).1 ::
      reads (lineSize - 1) (fgets (lineSize - 1) mapping.line).2 := by
    rw [line_eq]
    exact reads_cons byte text
  have first := fgets_head (fun member => (mapping.mem_head member).1 rfl) mapping.head_length_le
    (mapping.tail ++ [newline])
  rw [Mapping.continuations, pieces, List.tail_cons]
  rw [show fgets (lineSize - 1) mapping.line = _ from first]
  exact ⟨_, rfl⟩

theorem Mapping.findSome?_line (quiet : mapping.Quiet) (address : Nat) (stack : List UInt8) :
    (reads (lineSize - 1) mapping.line).findSome? (checkLine address stack) =
      if mapping.contains address then some mapping.protection else none := by
  obtain ⟨rest, pieces⟩ := mapping.reads_line
  have silent : mapping.continuations.findSome? (checkLine address stack) = none := by
    rw [List.findSome?_eq_none_iff]
    intro piece member
    rw [checkLine, quiet piece member]
  rw [pieces, List.findSome?_cons, checkLine_head, silent]
  split_ifs <;> rfl

end Line

/-! ## The table is read back -/

theorem mappingProt_table {mappings : List Mapping} (quiet : ∀ mapping ∈ mappings, mapping.Quiet)
    (address : Nat) (stack : List UInt8) :
    mappingProt stack (some (mappings.flatMap Mapping.line)) address =
      (mappings.find? fun mapping => mapping.contains address).map Mapping.protection := by
  unfold mappingProt
  dsimp only
  rw [show lineSize - 1 = 510 + 1 from rfl,
    reads_flatMap fun mapping _ => mapping.terminated_line]
  induction mappings with
  | nil => rfl
  | cons mapping mappings ih =>
      have line := mapping.findSome?_line (quiet mapping List.mem_cons_self) address stack
      rw [List.flatMap_cons, List.findSome?_append,
        show reads (510 + 1) mapping.line = reads (lineSize - 1) mapping.line from rfl, line,
        ih fun other member => quiet other (List.mem_cons_of_mem _ member), List.find?_cons]
      cases mapping.contains address <;> rfl

/-- Two mappings have no address in common. -/
def Mapping.Disjoint (first second : Mapping) : Prop :=
  first.stop ≤ second.start ∨ second.stop ≤ first.start

theorem Mapping.find?_of_contains {mappings : List Mapping} (disjoint : mappings.Pairwise Disjoint)
    {address : Nat} {mapping : Mapping} (member : mapping ∈ mappings)
    (inside : mapping.contains address = true) :
    mappings.find? (fun mapping => mapping.contains address) = some mapping := by
  induction mappings with
  | nil => cases member
  | cons first mappings ih =>
      obtain ⟨apart, disjoint⟩ := List.pairwise_cons.mp disjoint
      rw [List.find?_cons]
      rcases List.mem_cons.mp member with rfl | later
      · rw [inside]
      · have outside : first.contains address = false := by
          have separate := apart mapping later
          simp only [Mapping.contains, Bool.and_eq_true, decide_eq_true_eq, Disjoint,
            Bool.and_eq_false_iff, decide_eq_false_iff_not] at separate inside ⊢
          omega
        rw [outside]
        exact ih disjoint later

/-- For every table of disjoint mappings that the kernel prints, `mappingProt` returns the
protection of the mapping that contains the address, and -1 exactly if there is none. -/
theorem mappingProt_reads_back (mappings : List Mapping)
    (disjoint : mappings.Pairwise Mapping.Disjoint)
    (quiet : ∀ mapping ∈ mappings, mapping.Quiet) (stack : List UInt8) (address : Nat)
    (protection : Protection) :
    mappingProt stack (some (mappings.flatMap Mapping.line)) address = some protection ↔
      ∃ mapping ∈ mappings, mapping.contains address = true ∧
        mapping.protection = protection := by
  rw [mappingProt_table quiet, Option.map_eq_some_iff]
  constructor
  · rintro ⟨mapping, found, same⟩
    have inside := List.find?_some found
    exact ⟨mapping, List.mem_of_find?_eq_some found, inside, same⟩
  · rintro ⟨mapping, member, inside, same⟩
    exact ⟨mapping, Mapping.find?_of_contains disjoint member inside, same⟩

/-- The table at `0x7000`, in a library with a path that does not fit into the buffer. -/
def longLine : Mapping where
  start := 0x7000
  stop := 0x8000
  protection := ⟨true, false, false⟩
  shared := false
  tail := List.replicate 900 0x61
  start_le := by decide
  stop_le := by decide
  tail_line member := absurd (List.eq_of_mem_replicate member) (by decide)

theorem mappingProt_reads_back_longLine :
    mappingProt [] (some (longLine.line ++ [])) 0x7008 = some ⟨true, false, false⟩ :=
  (mappingProt_reads_back [longLine] (List.pairwise_singleton _ _)
    (fun mapping member => by
      obtain rfl := List.mem_singleton.mp member
      unfold Mapping.Quiet
      decide +kernel) [] 0x7008 ⟨true, false, false⟩).mpr
    ⟨longLine, List.mem_singleton_self _, by decide +kernel, rfl⟩

/-! ## The file tells the truth -/

/-- The table shows the protections by page. -/
def Shows (mappings : List Mapping) (layout : Layout) (prot : Nat → Protection) : Prop :=
  ∀ mapping ∈ mappings, ∀ address, mapping.contains address = true →
    mapping.protection = prot (layout.page address)

/-- What the programs of the shim are told of an address: its protection, or nothing. -/
theorem mappingProt_answers {mappings : List Mapping}
    (quiet : ∀ mapping ∈ mappings, mapping.Quiet) {layout : Layout} {process : Got.Process}
    (shows : Shows mappings layout process.prot) (stack : List UInt8) (address : Nat) :
    ∃ works, mappingProt stack (some (mappings.flatMap Mapping.line)) address =
      (Got.answer layout process (.mappingProt address) works).2 := by
  rw [mappingProt_table quiet]
  cases found : mappings.find? fun mapping => mapping.contains address with
  | none => exact ⟨false, rfl⟩
  | some mapping =>
      have inside := List.find?_some found
      have same := shows mapping (List.mem_of_find?_eq_some found) address inside
      exact ⟨true, congrArg some same⟩

end K50sv1.RilShim.Maps
