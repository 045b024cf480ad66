import Mathlib.Data.Fintype.Basic
import Mathlib.Data.Nat.Bitwise
import Mathlib.Tactic.SplitIfs
import K50sv1.Data.BitSet
import K50sv1.WmtLauncher.Firmware.Discovery

/-!
# Discovery of normal patches

A patch file announces in one byte how many patches there are and which one it is.
`read_patch` adds a file to a set that is indexed by this sequence number, and the search
succeeds when the set is complete.  The set is determined by the accepted files: it is
shown to be a collector of accepted files in the sense of `K50sv1.Data.Collector`.
-/

namespace K50sv1.WmtLauncher.Firmware

open K50sv1.Data
open K50sv1.Data.Bytes

/-! ## `patch.c` -/

def wmtPatchHeaderSize : Nat := 28

def wmtPatchNameSize : Nat := 256

def wmtMaxPatches : Nat := 10

@[ext]
structure WmtPatchInfo where
  sequence : UInt32
  address : Buffer 4
  name : Buffer wmtPatchNameSize
  deriving DecidableEq, Repr

structure WmtPatchFile where
  count : UInt32
  info : WmtPatchInfo
  deriving DecidableEq, Repr

@[ext]
structure WmtPatchSet where
  count : UInt32
  seen : Nat
  records : Fin wmtMaxPatches → WmtPatchInfo
  deriving DecidableEq

/-- A zeroed record. -/
def WmtPatchInfo.zero : WmtPatchInfo :=
  ⟨0, .zero _, .zero _⟩

def wmtPatchBuildVersion (header : List UInt8) : Except Errno (Buffer 16) :=
  if header.length < 16 then .error .emsgsize else .ok (.fill 16 (header.take 15))

/-- `.ok none` stands for the return value 1, a file for another firmware. -/
def wmtPatchParse (header basename : List UInt8) (firmware : UInt16) :
    Except Errno (Option WmtPatchFile) :=
  if header.length < wmtPatchHeaderSize then
    .error .emsgsize
  else if basename = [] ∨ wmtPatchNameSize ≤ basename.length ∨ 0x2f ∈ basename then
    .error .einval
  else if (header.getD 23 0).toUInt16 ≠ firmware &&& 0xff then
    .ok none
  else
    let count := (header.getD 24 0 >>> 4).toUInt32
    let sequence := (header.getD 24 0 &&& 0x0f).toUInt32
    if count = 0 ∨ wmtMaxPatches < count.toNat ∨ sequence = 0 ∨ count < sequence then
      .error .einval
    else
      .ok (some
        { count
          info :=
            { sequence
              address := .fill 4 (0 :: (header.drop 25).take 3)
              name := .fill wmtPatchNameSize basename } })

def wmtPatchSetAdd (set : WmtPatchSet) (file : WmtPatchFile) : Except Errno WmtPatchSet :=
  if file.count = 0 ∨ wmtMaxPatches < file.count.toNat ∨ file.info.sequence = 0 ∨
      file.count < file.info.sequence ∨ 0 ∉ file.info.name.bytes then
    .error .einval
  else if set.count ≠ 0 ∧ set.count ≠ file.count then
    .error .einval
  else
    let slot := file.info.sequence.toNat - 1
    if BitSet.has set.seen slot then
      .error .eexist
    else
      .ok
        { count := file.count
          seen := BitSet.insert set.seen slot
          records := store set.records slot file.info }

def wmtPatchSetComplete (set : WmtPatchSet) : Except Errno Unit :=
  if wmtMaxPatches < set.count.toNat then
    .error .einval
  else if set.count = 0 then
    .error .enoent
  else if set.seen = (1 <<< set.count.toNat) - 1 then
    .ok ()
  else
    .error .enodata

/-! ## The search -/

@[ext]
structure WmtFirmwareResult where
  patches : WmtPatchSet
  versions : Fin wmtMaxPatches → Buffer 16
  deriving DecidableEq

/-- A zeroed result. -/
def WmtFirmwareResult.zero : WmtFirmwareResult where
  patches := { count := 0, seen := 0, records := fun _ => .zero }
  versions := fun _ => .zero 16

/-- What `read_patch` does once it has the header. -/
def addPatch (firmware : UInt16) (name : EntryName) (header : List UInt8)
    (found : WmtFirmwareResult) : Except Errno WmtFirmwareResult :=
  match wmtPatchParse header name.bytes firmware with
  | .error errno => .error errno
  | .ok none => .ok found
  | .ok (some file) =>
      match wmtPatchSetAdd found.patches file with
      | .error errno => .error errno
      | .ok patches =>
          match wmtPatchBuildVersion header with
          | .error errno => .error errno
          | .ok version =>
              .ok
                { patches
                  versions := store found.versions (file.info.sequence.toNat - 1) version }

def readPatch (firmware : UInt16) (candidate : Candidate) (found : WmtFirmwareResult) :
    Except Errno WmtFirmwareResult :=
  match (readExact candidate.file wmtPatchHeaderSize).1 with
  | .error errno => .error errno
  | .ok header => addPatch firmware candidate.name header found

/-- The names of normal patches start like this. -/
def patchStem : List UInt8 :=
  ascii "ROMv2_lm_patch"

/-- The second component is what `*output` holds afterwards. -/
def wmtFirmwareSearch (directory : Option (List UInt8)) (firmware : UInt16) (run : SearchRun)
    (output : Option WmtFirmwareResult) : Except Errno Unit × Option WmtFirmwareResult :=
  match directory, output with
  | some path, some previous =>
      if path = [] then
        (.error .einval, some previous)
      else
        match searchDirectory patchStem (readPatch firmware) run .zero with
        | .error errno => (.error errno, some previous)
        | .ok found =>
            match wmtPatchSetComplete found.patches with
            | .error errno => (.error errno, some previous)
            | .ok () => (.ok (), some found)
  | _, _ => (.error .einval, output)

/-! ## What a file says -/

/-- The number of patches that a file announces. -/
def countNibble (content : List UInt8) : Nat :=
  (content.getD 24 0).toNat / 16

/-- The position of a file among the patches. -/
def sequenceNibble (content : List UInt8) : Nat :=
  (content.getD 24 0).toNat % 16

/-- The record of a file. -/
def patchInfo (name : EntryName) (content : List UInt8) : WmtPatchInfo where
  sequence := (content.getD 24 0 &&& 0x0f).toUInt32
  address := .fill 4 (0 :: (content.drop 25).take 3)
  name := .fill wmtPatchNameSize name.bytes

def patchFile (name : EntryName) (content : List UInt8) : WmtPatchFile where
  count := (content.getD 24 0 >>> 4).toUInt32
  info := patchInfo name content

/-- The build version of a file. -/
def patchVersion (content : List UInt8) : Buffer 16 :=
  .fill 16 (content.take 15)

/-- The three bytes of an address. -/
theorem bytes_address {content : List UInt8} (size : 28 ≤ content.length) :
    (Buffer.fill 4 (0 :: (content.drop 25).take 3)).bytes = 0 :: (content.drop 25).take 3 := by
  have length : (0 :: (content.drop 25).take 3 : List UInt8).length = 4 := by
    rw [List.length_cons, List.length_take, List.length_drop]
    omega
  rw [Buffer.bytes_fill length.le, length]
  exact List.append_nil _

theorem toNat_count (name : EntryName) (content : List UInt8) :
    (patchFile name content).count.toNat = countNibble content := by
  have shifted : (content.getD 24 0 >>> 4).toNat = (content.getD 24 0).toNat >>> 4 := rfl
  rw [patchFile, UInt8.toNat_toUInt32, shifted, Nat.shiftRight_eq_div_pow]
  rfl

theorem toNat_sequence (name : EntryName) (content : List UInt8) :
    (patchInfo name content).sequence.toNat = sequenceNibble content := by
  have masked : (content.getD 24 0 &&& 0x0f).toNat = (content.getD 24 0).toNat &&& 2 ^ 4 - 1 := rfl
  rw [patchInfo, UInt8.toNat_toUInt32, masked, Nat.and_two_pow_sub_one_eq_mod]
  rfl

/-- The firmware comparison looks at the low byte. -/
theorem byte_eq_low_iff (byte : UInt8) (firmware : UInt16) :
    byte.toUInt16 = firmware &&& 0xff ↔ byte = firmware.toUInt8 := by
  rw [← UInt16.toNat_inj, ← UInt8.toNat_inj, UInt8.toNat_toUInt16, UInt16.toNat_and,
    UInt16.toNat_toUInt8]
  exact Eq.congr_right (Nat.and_two_pow_sub_one_eq_mod firmware.toNat 8)

/-- The nibbles are those of one of at most ten patches. -/
def NibblesInRange (content : List UInt8) : Prop :=
  1 ≤ sequenceNibble content ∧ sequenceNibble content ≤ countNibble content ∧
    countNibble content ≤ wmtMaxPatches

instance (content : List UInt8) : Decidable (NibblesInRange content) :=
  inferInstanceAs (Decidable (_ ∧ _ ∧ _))

theorem nibblesInRange_iff (name : EntryName) (content : List UInt8) :
    NibblesInRange content ↔
      ¬((patchFile name content).count = 0 ∨
        wmtMaxPatches < (patchFile name content).count.toNat ∨
        (patchInfo name content).sequence = 0 ∨
        (patchFile name content).count < (patchInfo name content).sequence) := by
  have zero : ∀ value : UInt32, value = 0 ↔ value.toNat = 0 := fun _ => UInt32.toNat_inj.symm
  rw [NibblesInRange, zero, zero, UInt32.lt_iff_toNat_lt, toNat_count, toNat_sequence]
  omega

theorem EntryName.accepted (name : EntryName) :
    ¬(name.bytes = [] ∨ wmtPatchNameSize ≤ name.bytes.length ∨ 0x2f ∈ name.bytes) := by
  have short := name.short
  rw [wmtPatchNameSize]
  exact not_or.mpr ⟨name.nonempty, not_or.mpr ⟨Nat.not_le.mpr short, name.noSlash⟩⟩

/-- The parser sees a file only through its header. -/
theorem wmtPatchParse_take {content : List UInt8} (size : wmtPatchHeaderSize ≤ content.length)
    (name : EntryName) (firmware : UInt16) :
    wmtPatchParse (content.take wmtPatchHeaderSize) name.bytes firmware =
      if content.getD 23 0 ≠ firmware.toUInt8 then .ok none
      else if NibblesInRange content then .ok (some (patchFile name content))
      else .error .einval := by
  have whole : ¬(content.take wmtPatchHeaderSize).length < wmtPatchHeaderSize := by
    rw [List.length_take]
    omega
  have byte23 : (content.take wmtPatchHeaderSize).getD 23 0 = content.getD 23 0 := by
    simp [List.getD_eq_getElem?_getD, wmtPatchHeaderSize]
  have byte24 : (content.take wmtPatchHeaderSize).getD 24 0 = content.getD 24 0 := by
    simp [List.getD_eq_getElem?_getD, wmtPatchHeaderSize]
  have address : ((content.take wmtPatchHeaderSize).drop 25).take 3 = (content.drop 25).take 3 := by
    rw [List.drop_take, List.take_take]
    rfl
  rw [wmtPatchParse, if_neg whole, if_neg name.accepted, byte23, byte24, address]
  simp only [ne_eq, byte_eq_low_iff]
  by_cases matching : content.getD 23 0 = firmware.toUInt8
  · rw [if_neg (not_not.mpr matching), if_neg (not_not.mpr matching)]
    by_cases inRange : NibblesInRange content
    · rw [if_pos inRange]
      exact if_neg ((nibblesInRange_iff name content).mp inRange)
    · rw [if_neg inRange]
      exact if_pos (not_not.mp (mt (nibblesInRange_iff name content).mpr inRange))
  · rw [if_pos matching, if_pos matching]

/-! ## The set -/

/-- A file that the parser accepts. -/
structure AcceptedPatch where
  name : EntryName
  content : List UInt8
  inRange : NibblesInRange content

namespace AcceptedPatch

def file (patch : AcceptedPatch) : WmtPatchFile :=
  patchFile patch.name patch.content

/-- Two patches belong to one complete set. -/
def Agree (first second : AcceptedPatch) : Prop :=
  countNibble first.content = countNibble second.content ∧
    sequenceNibble first.content ≠ sequenceNibble second.content

end AcceptedPatch

/-- The result after some patches have been added. -/
structure ShowsPatches (patches : List AcceptedPatch) (found : WmtFirmwareResult) : Prop where
  start : patches = [] → found.patches.count = 0
  count : ∀ patch ∈ patches, found.patches.count.toNat = countNibble patch.content
  seen : ∀ i, found.patches.seen.testBit i = true ↔
    ∃ patch ∈ patches, sequenceNibble patch.content = i + 1
  present : ∀ patch ∈ patches, ∀ i : Fin wmtMaxPatches, sequenceNibble patch.content = i + 1 →
    found.patches.records i = patchInfo patch.name patch.content ∧
      found.versions i = patchVersion patch.content
  absent : ∀ i : Fin wmtMaxPatches, (∀ patch ∈ patches, sequenceNibble patch.content ≠ i + 1) →
    found.patches.records i = .zero ∧ found.versions i = .zero 16

/-- A file that the parser accepts passes the checks of the set. -/
theorem wmtPatchSetAdd_accepted (set : WmtPatchSet) (patch : AcceptedPatch) :
    wmtPatchSetAdd set patch.file =
      if set.count ≠ 0 ∧ set.count ≠ patch.file.count then .error .einval
      else if set.seen.testBit (sequenceNibble patch.content - 1) then .error .eexist
      else .ok
        { count := patch.file.count
          seen := BitSet.insert set.seen (sequenceNibble patch.content - 1)
          records := store set.records (sequenceNibble patch.content - 1)
            (patchInfo patch.name patch.content) } := by
  have slot : patch.file.info.sequence.toNat = sequenceNibble patch.content :=
    toNat_sequence patch.name patch.content
  have terminated : 0 ∈ patch.file.info.name.bytes := Buffer.zero_mem_fill patch.name.short
  have valid : ¬(patch.file.count = 0 ∨ wmtMaxPatches < patch.file.count.toNat ∨
      patch.file.info.sequence = 0 ∨ patch.file.count < patch.file.info.sequence ∨
      0 ∉ patch.file.info.name.bytes) := by
    have inRange := (nibblesInRange_iff patch.name patch.content).mp patch.inRange
    simp only [not_or] at inRange ⊢
    exact ⟨inRange.1, inRange.2.1, inRange.2.2.1, inRange.2.2.2, not_not.mpr terminated⟩
  simp only [wmtPatchSetAdd, if_neg valid, slot, BitSet.has_eq_testBit]
  rfl

/-- The result with a further accepted file. -/
def takePatch (found : WmtFirmwareResult) (patch : AcceptedPatch) :
    Except Errno WmtFirmwareResult :=
  (wmtPatchSetAdd found.patches patch.file).map fun patches =>
    { patches
      versions := store found.versions (sequenceNibble patch.content - 1)
        (patchVersion patch.content) }

theorem addPatch_accepted {firmware : UInt16} {found : WmtFirmwareResult} (patch : AcceptedPatch)
    (size : wmtPatchHeaderSize ≤ patch.content.length)
    (matching : patch.content.getD 23 0 = firmware.toUInt8) :
    addPatch firmware patch.name (patch.content.take wmtPatchHeaderSize) found =
      takePatch found patch := by
  have slot : patch.file.info.sequence.toNat = sequenceNibble patch.content :=
    toNat_sequence patch.name patch.content
  have version : wmtPatchBuildVersion (patch.content.take wmtPatchHeaderSize) =
      .ok (patchVersion patch.content) := by
    rw [wmtPatchHeaderSize] at size ⊢
    rw [wmtPatchBuildVersion, if_neg (by rw [List.length_take]; omega), List.take_take]
    rfl
  have parsed : wmtPatchParse (patch.content.take wmtPatchHeaderSize) patch.name.bytes firmware =
      .ok (some patch.file) := by
    rw [wmtPatchParse_take size, if_neg (not_not.mpr matching), if_pos patch.inRange]
    rfl
  simp only [addPatch, parsed, version, slot, takePatch]
  cases wmtPatchSetAdd found.patches patch.file <;> rfl

/-- Looking at a file without a set. -/
def inspectPatch (firmware : UInt16) (name : EntryName) (content : List UInt8) :
    Except Errno (Option AcceptedPatch) :=
  if content.length < wmtPatchHeaderSize then
    .error .emsgsize
  else if content.getD 23 0 ≠ firmware.toUInt8 then
    .ok none
  else if inRange : NibblesInRange content then
    .ok (some ⟨name, content, inRange⟩)
  else
    .error .einval

/-- The consumer of the search, as a function of what a file contains. -/
def examinePatch (firmware : UInt16) (name : EntryName) (content : List UInt8)
    (found : WmtFirmwareResult) : Except Errno WmtFirmwareResult :=
  if content.length < wmtPatchHeaderSize then .error .emsgsize
  else addPatch firmware name (content.take wmtPatchHeaderSize) found

theorem readPatch_consumes (firmware : UInt16) :
    Consumes (readPatch firmware) (examinePatch firmware) := by
  intro candidate undisturbed start _ _ _ found
  have whole : candidate.file.rest = candidate.file.content := by
    rw [OpenFile.rest, start, List.drop_zero]
  rw [readPatch, examinePatch, ← whole]
  rcases readExact_undisturbed undisturbed wmtPatchHeaderSize with
    ⟨enough, answers, -, read⟩ | ⟨short, failed⟩
  · rw [read, if_neg (Nat.not_lt.mpr enough)]
  · rw [failed, if_pos short]

/-- The consumer first looks at the file, then at the set. -/
theorem examinePatch_eq (firmware : UInt16) (name : EntryName) (content : List UInt8)
    (found : WmtFirmwareResult) :
    examinePatch firmware name content found =
      (inspectPatch firmware name content).bind fun patch =>
        patch.elim (.ok found) (takePatch found) := by
  rw [examinePatch, inspectPatch]
  by_cases short : content.length < wmtPatchHeaderSize
  · rw [if_pos short, if_pos short]
    rfl
  rw [if_neg short, if_neg short]
  have size := Nat.not_lt.mp short
  by_cases matching : content.getD 23 0 = firmware.toUInt8
  case neg =>
    rw [if_pos matching, addPatch, wmtPatchParse_take size, if_pos matching]
    rfl
  rw [if_neg (not_not.mpr matching)]
  by_cases inRange : NibblesInRange content
  · rw [dif_pos inRange]
    exact addPatch_accepted ⟨name, content, inRange⟩ size matching
  · rw [dif_neg inRange, addPatch, wmtPatchParse_take size, if_neg (not_not.mpr matching),
      if_neg inRange]
    rfl

/-- The count of the set is that of an earlier patch. -/
theorem ShowsPatches.count_eq_iff {earlier : List AcceptedPatch} {found : WmtFirmwareResult}
    (shown : ShowsPatches earlier found) {other : AcceptedPatch} (member : other ∈ earlier)
    (patch : AcceptedPatch) :
    found.patches.count = patch.file.count ↔
      countNibble other.content = countNibble patch.content := by
  rw [← UInt32.toNat_inj, shown.count other member, AcceptedPatch.file, toNat_count]

/-- A patch that agrees with all earlier ones is added. -/
theorem takePatch_agree {earlier : List AcceptedPatch} {found : WmtFirmwareResult}
    (shown : ShowsPatches earlier found) {patch : AcceptedPatch}
    (agree : ∀ other ∈ earlier, other.Agree patch) :
    ∃ after, takePatch found patch = .ok after ∧ ShowsPatches (earlier ++ [patch]) after := by
  have first := patch.inRange.1
  have counted : ¬(found.patches.count ≠ 0 ∧ found.patches.count ≠ patch.file.count) := by
    rintro ⟨nonzero, different⟩
    cases earlier with
    | nil => exact nonzero (shown.start rfl)
    | cons other rest =>
        exact different ((shown.count_eq_iff List.mem_cons_self patch).mpr
          (agree other List.mem_cons_self).1)
  have unseen : ¬found.patches.seen.testBit (sequenceNibble patch.content - 1) = true := by
    rw [shown.seen, Nat.sub_add_cancel first]
    rintro ⟨other, member, same⟩
    exact (agree other member).2 same
  refine ⟨_, by rw [takePatch, wmtPatchSetAdd_accepted, if_neg counted, if_neg unseen]; rfl, ?_⟩
  constructor
  · intro empty
    simp at empty
  · intro other member
    change patch.file.count.toNat = _
    rw [AcceptedPatch.file, toNat_count]
    rcases List.mem_append.mp member with before | last
    · exact (agree other before).1.symm
    · rw [List.mem_singleton.mp last]
  · have slot : ∀ i, sequenceNibble patch.content - 1 = i ↔
        sequenceNibble patch.content = i + 1 := by
      intro i
      omega
    exact BitSet.testBit_insert_concat shown.seen slot
  · intro other member i same
    rcases List.mem_append.mp member with before | last
    · have elsewhere : i.val ≠ sequenceNibble patch.content - 1 := by
        have := (agree other before).2
        omega
      dsimp only
      rw [store_other elsewhere, store_other elsewhere]
      exact shown.present other before i same
    · obtain rfl := List.mem_singleton.mp last
      have here : i.val = sequenceNibble other.content - 1 := by omega
      dsimp only
      rw [store_same here, store_same here]
      exact ⟨rfl, rfl⟩
  · intro i missing
    have elsewhere : i.val ≠ sequenceNibble patch.content - 1 := by
      have := missing patch List.mem_concat_self
      omega
    dsimp only
    rw [store_other elsewhere, store_other elsewhere]
    exact shown.absent i fun other member => missing other (List.mem_append_left _ member)

/-- A patch that disagrees with an earlier one is refused. -/
theorem takePatch_clash {earlier : List AcceptedPatch} {found : WmtFirmwareResult}
    (shown : ShowsPatches earlier found) {patch other : AcceptedPatch}
    (member : other ∈ earlier) (disagree : ¬other.Agree patch) :
    ∃ errno, takePatch found patch = .error errno := by
  rw [takePatch, wmtPatchSetAdd_accepted]
  by_cases counted : found.patches.count ≠ 0 ∧ found.patches.count ≠ patch.file.count
  · rw [if_pos counted]
    exact ⟨_, rfl⟩
  rw [if_neg counted]
  have nonzero : found.patches.count ≠ 0 := by
    intro zero
    have announced := shown.count other member
    have inRange := other.inRange
    rw [zero] at announced
    exact absurd announced (by unfold NibblesInRange at inRange; simp; omega)
  have sameCount : countNibble other.content = countNibble patch.content := by
    rw [← shown.count_eq_iff member patch]
    exact not_not.mp fun different => counted ⟨nonzero, different⟩
  have sameSequence : sequenceNibble other.content = sequenceNibble patch.content :=
    not_not.mp fun different => disagree ⟨sameCount, different⟩
  have seen : found.patches.seen.testBit (sequenceNibble patch.content - 1) = true := by
    rw [shown.seen, Nat.sub_add_cancel patch.inRange.1]
    exact ⟨other, member, sameSequence⟩
  rw [if_pos seen]
  exact ⟨_, rfl⟩

/-- The set is a collector of accepted files. -/
theorem patchCollector (firmware : UInt16) :
    Collector (fun file : EntryName × List UInt8 => inspectPatch firmware file.1 file.2)
      (fun found file => examinePatch firmware file.1 file.2 found) AcceptedPatch.Agree
      ShowsPatches where
  failure found file errno looked := by
    rw [examinePatch_eq, looked]
    exact ⟨_, rfl⟩
  nothing found file looked := by
    rw [examinePatch_eq, looked]
    rfl
  agreement file patch looked shown agree := by
    rw [examinePatch_eq, looked]
    exact takePatch_agree shown agree
  clash file patch looked shown member disagree := by
    rw [examinePatch_eq, looked]
    exact takePatch_clash shown member disagree

theorem AcceptedPatch.Agree.symm {first second : AcceptedPatch} (agree : first.Agree second) :
    second.Agree first :=
  ⟨agree.1.symm, agree.2.symm⟩

theorem inspectPatch_eq_some_iff {firmware : UInt16} {name : EntryName} {content : List UInt8}
    {patch : AcceptedPatch} :
    inspectPatch firmware name content = .ok (some patch) ↔
      patch.name = name ∧ patch.content = content ∧ wmtPatchHeaderSize ≤ content.length ∧
        content.getD 23 0 = firmware.toUInt8 := by
  rw [inspectPatch]
  constructor
  · intro looked
    split_ifs at looked with short other inRange
    · cases looked
    · obtain rfl := Option.some.inj (Except.ok.inj looked)
      exact ⟨rfl, rfl, Nat.not_lt.mp short, not_not.mp other⟩
  · obtain ⟨_, _, inRange⟩ := patch
    rintro ⟨rfl, rfl, size, matching⟩
    rw [if_neg (Nat.not_lt.mpr size), if_neg (not_not.mpr matching), dif_pos inRange]

theorem inspectPatch_isOk_iff {firmware : UInt16} {name : EntryName} {content : List UInt8} :
    (∃ found, inspectPatch firmware name content = .ok found) ↔
      wmtPatchHeaderSize ≤ content.length ∧
        (content.getD 23 0 = firmware.toUInt8 → NibblesInRange content) := by
  rw [inspectPatch]
  split_ifs with short other inRange
  · simp only [exists_false, false_iff, not_and]
    exact fun size => absurd short (Nat.not_lt.mpr size)
  · exact ⟨fun _ => ⟨Nat.not_lt.mp short, fun matching => absurd matching other⟩, fun _ => ⟨_, rfl⟩⟩
  · exact ⟨fun _ => ⟨Nat.not_lt.mp short, fun _ => inRange⟩, fun _ => ⟨_, rfl⟩⟩
  · simp only [exists_false, false_iff, not_and]
    exact fun _ within => inRange (within (not_not.mp other))

/-- The set is complete when it holds as many patches as it announces. -/
theorem wmtPatchSetComplete_eq_ok_iff {set : WmtPatchSet} :
    wmtPatchSetComplete set = .ok () ↔
      1 ≤ set.count.toNat ∧ set.count.toNat ≤ wmtMaxPatches ∧
        ∀ i, set.seen.testBit i = decide (i < set.count.toNat) := by
  have zero : set.count = 0 ↔ set.count.toNat = 0 := UInt32.toNat_inj.symm
  rw [← BitSet.eq_full_iff, wmtPatchSetComplete]
  split_ifs with large empty full
  · simp only [false_iff]
    omega
  · rw [zero] at empty
    simp only [false_iff]
    omega
  · rw [zero] at empty
    simp only [full, true_iff, and_true]
    omega
  · simp only [full, and_false]

/-! ## Results of any run -/

/-- What is marked as seen is a record with the name of a candidate. -/
def PatchesSound (found : WmtFirmwareResult) : Prop :=
  ∀ i : Fin wmtMaxPatches, found.patches.seen.testBit i = true →
    (found.patches.records i).sequence.toNat = i + 1 ∧
      ∃ name : EntryName, patchStem <+: name.bytes ∧
        (found.patches.records i).name = .fill wmtPatchNameSize name.bytes

/-- What the parser returns. -/
theorem wmtPatchParse_eq_some {header basename : List UInt8} {firmware : UInt16}
    {file : WmtPatchFile} (parsed : wmtPatchParse header basename firmware = .ok (some file)) :
    file.info.name = .fill wmtPatchNameSize basename ∧ file.info.sequence ≠ 0 := by
  unfold wmtPatchParse at parsed
  dsimp only at parsed
  split_ifs at parsed with short name other nibbles
  · cases parsed
  · obtain rfl := Option.some.inj (Except.ok.inj parsed)
    simp only [not_or] at nibbles
    exact ⟨rfl, nibbles.2.2.1⟩

/-- What the set becomes. -/
theorem wmtPatchSetAdd_eq_ok {set after : WmtPatchSet} {file : WmtPatchFile}
    (added : wmtPatchSetAdd set file = .ok after) :
    after.seen = BitSet.insert set.seen (file.info.sequence.toNat - 1) ∧
      after.records = store set.records (file.info.sequence.toNat - 1) file.info := by
  unfold wmtPatchSetAdd at added
  dsimp only at added
  split_ifs at added
  obtain rfl := Except.ok.inj added
  exact ⟨rfl, rfl⟩

theorem readPatch_sound {firmware : UInt16} {candidate : Candidate}
    {found after : WmtFirmwareResult} (named : patchStem <+: candidate.name.bytes)
    (sound : PatchesSound found) (read : readPatch firmware candidate found = .ok after) :
    PatchesSound after := by
  rw [readPatch] at read
  split at read
  · cases read
  rw [addPatch] at read
  split at read
  · cases read
  · exact Except.ok.inj read ▸ sound
  · next file parsed =>
    split at read
    · cases read
    · next patches added =>
      split at read
      · cases read
      · obtain rfl := Except.ok.inj read
        obtain ⟨name, positive⟩ := wmtPatchParse_eq_some parsed
        obtain ⟨seen, records⟩ := wmtPatchSetAdd_eq_ok added
        have nonzero : file.info.sequence.toNat ≠ 0 :=
          fun zero => positive (UInt32.toNat_inj.mp zero)
        intro i marked
        dsimp only at marked ⊢
        rw [seen, BitSet.testBit_insert, Bool.or_eq_true, decide_eq_true_eq] at marked
        rw [records]
        by_cases here : (i : Nat) = file.info.sequence.toNat - 1
        · rw [store_same here, name]
          exact ⟨by omega, candidate.name, named, rfl⟩
        · rw [store_other here]
          exact sound i (marked.resolve_right fun same => here same.symm)

/-- The records of a set that the search reports, whatever happened in the run. -/
theorem wmtFirmwareSearch_sound {directory : List UInt8} {firmware : UInt16} {run : SearchRun}
    {previous found : WmtFirmwareResult}
    (searched : wmtFirmwareSearch (some directory) firmware run (some previous) =
      (.ok (), some found)) :
    PatchesSound found ∧ wmtPatchSetComplete found.patches = .ok () := by
  rw [wmtFirmwareSearch] at searched
  split_ifs at searched with empty
  · cases searched
  split at searched
  · cases searched
  · next result search =>
    split at searched
    · cases searched
    · next complete =>
      cases searched
      have start : PatchesSound .zero := by
        intro i marked
        simp [WmtFirmwareResult.zero] at marked
      exact ⟨searchDirectory_invariant (fun _ _ _ => readPatch_sound) start search, complete⟩

end K50sv1.WmtLauncher.Firmware
