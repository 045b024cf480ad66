import K50sv1.Data.Bytes
import K50sv1.Transition.Program
import K50sv1.WlanAssistant.Mac

/-!
# Writing the calibration data to the driver

`write_nvram` as a program over the calls it makes: `stat` and `sleep` in the retry
loop, the two file reads, the write to the driver and the property.  Every answer is
arbitrary and all of them are recorded, so the specification of a call is a statement
about its record.
-/

namespace K50sv1.WlanAssistant

open K50sv1.Data
open K50sv1.Transition
open K50sv1.Transition.Program

/-! ## Calls -/

inductive StatResult where
  | failed
  | found (regular : Bool) (size : Int)
  deriving DecidableEq, Repr

inductive NvramOp where
  | stat
  | sleep
  /-- `ReadFileToString` of the calibration file. -/
  | readFile
  /-- `ReadFileToString` of the custom MAC file. -/
  | readMac
  | writeDriver (data : List UInt8)
  /-- `SetProperty("vendor.mtk.nvram.ready", "1")`. -/
  | setReady
  deriving DecidableEq, Repr

def NvramOp.Reply : NvramOp → Type
  | .stat => StatResult
  | .sleep => Unit
  | .readFile => Option (List UInt8)
  | .readMac => Option (List UInt8)
  | .writeDriver _ => Bool
  | .setReady => Bool

/-- What the calls answer; a call uses the field for its kind. -/
structure Answer where
  stat : StatResult := .failed
  file : Option (List UInt8) := none
  mac : Option (List UInt8) := none
  accepted : Bool := false
  published : Bool := false
  deriving DecidableEq, Repr

/-- A call with its answer. -/
inductive NvramEvent where
  | stat (result : StatResult)
  | read (content : Option (List UInt8))
  | readMac (content : Option (List UInt8))
  | write (data : List UInt8) (accepted : Bool)
  | ready (published : Bool)
  deriving DecidableEq, Repr

def answerNvram : Program.Handler NvramOp NvramOp.Reply (List NvramEvent) Answer
  | log, .stat, answer => (log ++ [.stat answer.stat], answer.stat)
  | log, .sleep, _ => (log, ())
  | log, .readFile, answer => (log ++ [.read answer.file], answer.file)
  | log, .readMac, answer => (log ++ [.readMac answer.mac], answer.mac)
  | log, .writeDriver data, answer => (log ++ [.write data answer.accepted], answer.accepted)
  | log, .setReady, answer => (log ++ [.ready answer.published], answer.published)

abbrev NvramProgram := Program NvramOp NvramOp.Reply

def stat : NvramProgram StatResult :=
  Program.perform NvramOp.stat

def sleep : NvramProgram Unit :=
  Program.perform NvramOp.sleep

def readFile : NvramProgram (Option (List UInt8)) :=
  Program.perform NvramOp.readFile

def readMac : NvramProgram (Option (List UInt8)) :=
  Program.perform NvramOp.readMac

def writeDriver (data : List UInt8) : NvramProgram Bool :=
  Program.perform (NvramOp.writeDriver data)

def setReady : NvramProgram Bool :=
  Program.perform NvramOp.setReady

/-! ## `write_nvram` -/

def maxRetryCount : Nat := 5

def nvramMacAddressOffset : Nat := 4

/-- The command in front of the payload. -/
def nvramCommand : List UInt8 :=
  "WR-BUF:NVRAM".toList.map Char.toUInt8

def writeDataToDriver (data : List UInt8) : NvramProgram Bool :=
  if data = [] then pure false else writeDriver data

/-- The retry loop with `remaining` rounds and the size of the last round: the size at its
end, or `none` if the file is refused at once. -/
def sizeLoop : Nat → Nat → NvramProgram (Option Nat)
  | 0, size => pure (some size)
  | remaining + 1, size => do
      match ← stat with
      | .failed =>
          sleep
          sizeLoop remaining size
      | .found regular stSize =>
          if !regular || stSize ≤ 2 || stSize - 2 > 65535 then
            return none
          else
            let size := (stSize - 2).toNat
            if size > 0 && size &&& 0xff = 0 then
              return some size
            else
              sleep
              sizeLoop remaining size

/-- The loop that puts the address into the data. -/
def overlayMac (data mac : List UInt8) : List UInt8 :=
  mac.zipIdx.foldl
    (fun data (octet, i) => data.set (nvramCommand.length + nvramMacAddressOffset + i) octet) data

/-- The bytes for the driver. -/
def nvramData (size : Nat) (file : List UInt8) (mac : Option (List UInt8)) : List UInt8 :=
  let acnvram := nvramCommand ++ file.take size
  match getCustomMacAddress mac with
  | none => acnvram
  | some octets => overlayMac acnvram octets

def writeNvram : NvramProgram Bool := do
  match ← sizeLoop maxRetryCount 0 with
  | none => return false
  | some size =>
      if size = 0 || size &&& 0xff ≠ 0 then
        return false
      else
        match ← readFile with
        | none => return false
        | some file =>
            if file.length ≠ size + 2 then
              return false
            else
              let mac ← readMac
              if !(← writeDataToDriver (nvramData size file mac)) then
                return false
              else
                setReady

/-! ## What a call is to do -/

/-- The sizes that `stat` reported. -/
def sizesSeen (seen : List StatResult) : List Int :=
  seen.filterMap fun
    | .failed => none
    | .found _ size => some size

/-- The last size seen is that of a payload of `size` bytes and its trailer. -/
structure ValidSize (seen : List StatResult) (size : Nat) : Prop where
  last : (sizesSeen seen).getLast? = some (size + 2 : Int)
  pos : 0 < size
  dvd : 256 ∣ size
  le : size ≤ 65535

/-- The content of the MAC file is an address, given by its octets. -/
def CustomMac (content : Option (List UInt8)) (octets : List UInt8) : Prop :=
  ∃ text, content = some text ∧ IsMacText (CText.trim text) octets

/-- The payload is the plain one with bytes 4 to 9 replaced by the custom address, if there
is one. -/
structure Overlaid (content : Option (List UInt8)) (plain payload : List UInt8) : Prop where
  custom : ∀ octets, CustomMac content octets →
    payload = plain.take 4 ++ octets ++ plain.drop 10
  unchanged : (∀ octets, ¬ CustomMac content octets) → payload = plain

/-- `data` is what the driver is to be given for a calibration file. -/
def IsNvramData (size : Nat) (file : List UInt8) (content : Option (List UInt8))
    (data : List UInt8) : Prop :=
  ∃ payload, data = nvramCommand ++ payload ∧ Overlaid content (file.take size) payload

/-- The result of a call and its record. -/
inductive Outcome : Bool → List NvramEvent → Prop
  | unsized (seen : List StatResult) : Outcome false (seen.map .stat)
  | unread (seen : List StatResult) (content : Option (List UInt8)) :
      Outcome false (seen.map .stat ++ [.read content])
  | refused {seen : List StatResult} {size : Nat} {file data : List UInt8}
      {content : Option (List UInt8)} (valid : ValidSize seen size)
      (complete : file.length = size + 2) (exact : IsNvramData size file content data) :
      Outcome false
        (seen.map .stat ++ [.read (some file), .readMac content, .write data false])
  | accepted {seen : List StatResult} {size : Nat} {file data : List UInt8}
      {content : Option (List UInt8)} (valid : ValidSize seen size)
      (complete : file.length = size + 2) (exact : IsNvramData size file content data)
      (published : Bool) :
      Outcome published
        (seen.map .stat ++
          [.read (some file), .readMac content, .write data true, .ready published])

/-! ## The bytes -/

theorem isMacText_length {text octets : List UInt8} (isMac : IsMacText text octets) :
    octets.length = 6 := by
  obtain ⟨pairs, count_eq, -, rfl⟩ := isMac
  rw [List.length_map, count_eq]

/-- Setting one byte after the other is one copy. -/
theorem foldl_set_eq_overwrite (data octets : List UInt8) (offset start : Nat)
    (fits : offset + start + octets.length ≤ data.length) :
    (octets.zipIdx start).foldl (fun data (octet, i) => data.set (offset + i) octet) data =
      Bytes.overwrite data (offset + start) octets := by
  induction octets generalizing data start with
  | nil => simp [Bytes.overwrite]
  | cons octet octets ih =>
      rw [List.length_cons] at fits
      have one : data.set (offset + start) octet =
          Bytes.overwrite data (offset + start) [octet] := by
        rw [List.set_eq_take_append_cons_drop, if_pos (by omega), Bytes.overwrite]
        simp
      rw [List.zipIdx_cons, List.foldl_cons, ih _ _ (by rw [List.length_set]; omega)]
      dsimp only
      rw [one, Bytes.overwrite_overwrite (by omega) (Nat.add_assoc offset start 1)]
      rfl

theorem length_nvramCommand : nvramCommand.length = 12 := by
  decide

theorem overlayMac_eq {plain octets : List UInt8} (six : octets.length = 6)
    (fits : 10 ≤ plain.length) :
    overlayMac (nvramCommand ++ plain) octets =
      nvramCommand ++ (plain.take 4 ++ octets ++ plain.drop 10) := by
  have command := length_nvramCommand
  unfold overlayMac
  rw [foldl_set_eq_overwrite _ _ _ 0 (by
    rw [List.length_append, command, six, nvramMacAddressOffset]
    omega)]
  rw [Bytes.overwrite, six, command, nvramMacAddressOffset, List.take_append, List.drop_append,
    command, List.take_of_length_le (by omega), List.drop_eq_nil_of_le (by omega)]
  simp

/-- The data are those of the specification. -/
theorem isNvramData_nvramData {size : Nat} {file : List UInt8} (content : Option (List UInt8))
    (large : 10 ≤ size) (complete : file.length = size + 2) :
    IsNvramData size file content (nvramData size file content) := by
  have plainLength : (file.take size).length = size := by
    rw [List.length_take]
    omega
  have custom_iff (octets : List UInt8) :
      CustomMac content octets ↔ getCustomMacAddress content = some octets :=
    getCustomMacAddress_eq_some_iff.symm
  unfold nvramData
  cases address : getCustomMacAddress content with
  | none =>
      refine ⟨_, rfl, fun octets custom => ?_, fun _ => rfl⟩
      rw [custom_iff, address] at custom
      exact nomatch custom
  | some octets =>
      have six : octets.length = 6 := by
        obtain ⟨text, -, isMac⟩ := (custom_iff octets).mpr address
        exact isMacText_length isMac
      refine ⟨_, overlayMac_eq six (by omega), fun octets' custom => ?_, fun absent => ?_⟩
      · rw [custom_iff, address] at custom
        rw [Option.some.inj custom]
      · exact absurd ((custom_iff octets).mpr address) (absent octets)

/-! ## The calls -/

/-- The record of the retry loop. -/
theorem ensures_stat {Q : StatResult → List NvramEvent → Prop} {seen : List StatResult}
    (post : ∀ result, Q result ((seen ++ [result]).map .stat)) :
    Ensures answerNvram (fun _ => True) stat Q (seen.map .stat) := by
  apply ensures_perform trivial
  intro answer
  refine ⟨trivial, ?_⟩
  have after := post answer.stat
  rwa [List.map_append] at after

theorem ensures_sleep {α : Type} {rest : NvramProgram α} {Q : α → List NvramEvent → Prop}
    {log : List NvramEvent} (post : Ensures answerNvram (fun _ => True) rest Q log) :
    Ensures answerNvram (fun _ => True) (sleep >>= fun _ => rest) Q log := by
  apply ensures_bind
  exact ensures_perform trivial fun _ => ⟨trivial, post⟩

theorem and_ff_eq_zero_iff (size : Nat) : size &&& 0xff = 0 ↔ 256 ∣ size := by
  rw [show 0xff = 2 ^ 8 - 1 from rfl, Nat.and_two_pow_sub_one_eq_mod, Nat.dvd_iff_mod_eq_zero]

theorem sizesSeen_failed (seen : List StatResult) :
    sizesSeen (seen ++ [.failed]) = sizesSeen seen := by
  simp [sizesSeen]

theorem sizesSeen_found (seen : List StatResult) (regular : Bool) (size : Int) :
    sizesSeen (seen ++ [.found regular size]) = sizesSeen seen ++ [size] := by
  simp [sizesSeen]

/-- The size that the loop ends with is the last one seen, unless it is refused below. -/
theorem ensures_sizeLoop {remaining size : Nat} {seen : List StatResult}
    (current : 0 < size → 256 ∣ size → ValidSize seen size) :
    Ensures answerNvram (fun _ => True) (sizeLoop remaining size)
      (fun result after => ∃ seen, after = seen.map .stat ∧
        ∀ size, result = some size → 0 < size → 256 ∣ size → ValidSize seen size)
      (seen.map .stat) := by
  induction remaining generalizing size seen with
  | zero =>
      apply ensures_pure trivial
      refine ⟨seen, rfl, ?_⟩
      rintro _ ⟨⟩
      exact current
  | succ remaining ih =>
      apply ensures_bind
      apply ensures_stat
      intro result
      cases result with
      | failed =>
          apply ensures_sleep
          apply ih
          intro pos dvd
          have valid := current pos dvd
          refine ⟨?_, pos, dvd, valid.le⟩
          rw [sizesSeen_failed, valid.last]
      | found regular stSize =>
          dsimp only
          by_cases invalid : (!regular || stSize ≤ 2 || stSize - 2 > 65535) = true
          · rw [if_pos invalid]
            apply ensures_pure trivial
            exact ⟨_, rfl, fun _ absent => nomatch absent⟩
          · rw [if_neg invalid]
            simp only [Bool.or_eq_true, decide_eq_true_eq, not_or, not_le, not_lt] at invalid
            -- whatever the loop goes on with is now the last size seen
            have seen' (pos : 0 < (stSize - 2).toNat) (dvd : 256 ∣ (stSize - 2).toNat) :
                ValidSize (seen ++ [.found regular stSize]) (stSize - 2).toNat := by
              refine ⟨?_, pos, dvd, by omega⟩
              rw [sizesSeen_found, List.getLast?_concat, Option.some.injEq]
              omega
            split_ifs with multiple
            · apply ensures_pure trivial
              refine ⟨_, rfl, ?_⟩
              rintro _ ⟨⟩
              exact seen'
            · apply ensures_sleep
              exact ih seen'

theorem ensures_writeDataToDriver {data : List UInt8} (nonempty : data ≠ [])
    {Q : Bool → List NvramEvent → Prop} {log : List NvramEvent}
    (post : ∀ accepted, Q accepted (log ++ [.write data accepted])) :
    Ensures answerNvram (fun _ => True) (writeDataToDriver data) Q log := by
  rw [writeDataToDriver, if_neg nonempty]
  exact ensures_perform trivial fun answer => ⟨trivial, post answer.accepted⟩

theorem IsNvramData.ne_nil {size : Nat} {file data : List UInt8}
    {content : Option (List UInt8)} (exact : IsNvramData size file content data) :
    data ≠ [] := by
  obtain ⟨payload, rfl, -⟩ := exact
  exact List.append_ne_nil_of_left_ne_nil (by decide) payload

theorem ensures_writeNvram : Ensures answerNvram (fun _ => True) writeNvram Outcome [] := by
  have start : 0 < 0 → 256 ∣ 0 → ValidSize [] 0 := fun pos => absurd pos (Nat.lt_irrefl 0)
  apply (ensures_sizeLoop start).bind
  rintro result _ - ⟨seen, rfl, valid⟩
  cases result with
  | none => exact ensures_pure trivial (.unsized seen)
  | some size =>
      dsimp only
      split_ifs with invalid
      · exact ensures_pure trivial (.unsized seen)
      · simp only [Bool.or_eq_true, decide_eq_true_eq, not_or, not_not,
          and_ff_eq_zero_iff] at invalid
        have validSize := valid size rfl (Nat.pos_of_ne_zero invalid.1) invalid.2
        have large : 10 ≤ size :=
          Nat.le_trans (by decide) (Nat.le_of_dvd validSize.pos validSize.dvd)
        apply ensures_bind
        apply ensures_perform trivial
        intro answer
        refine ⟨trivial, ?_⟩
        change Ensures answerNvram _ (match answer.file with | none => _ | some file => _) Outcome
          (_ ++ [.read answer.file])
        cases answer.file with
        | none => exact ensures_pure trivial (.unread seen none)
        | some file =>
            dsimp only
            split_ifs with incomplete
            · exact ensures_pure trivial (.unread seen (some file))
            · have complete := not_not.mp incomplete
              apply ensures_bind
              apply ensures_perform trivial
              intro macAnswer
              refine ⟨trivial, ?_⟩
              have exact := isNvramData_nvramData macAnswer.mac large complete
              apply ensures_bind
              apply ensures_writeDataToDriver exact.ne_nil
              intro accepted
              cases accepted with
              | false =>
                  apply ensures_pure trivial
                  have outcome := Outcome.refused validSize complete exact
                  simpa [answerNvram] using outcome
              | true =>
                  apply ensures_perform trivial
                  intro readyAnswer
                  refine ⟨trivial, ?_⟩
                  have outcome :=
                    Outcome.accepted validSize complete exact readyAnswer.published
                  simpa [answerNvram] using outcome

/-! ## The specification of a call -/

/-- One call of `write_nvram`: what it returns and its record. -/
def nvramCall (answers : Nat → Answer) : Bool × List NvramEvent :=
  writeNvram.run answerNvram [] answers

theorem nvramCall_outcome (answers : Nat → Answer) :
    Outcome (nvramCall answers).1 (nvramCall answers).2 :=
  ensures_writeNvram.run answers

/-- The writes to the driver, with its answers. -/
def driverWrites (log : List NvramEvent) : List (List UInt8 × Bool) :=
  log.filterMap fun
    | .write data accepted => some (data, accepted)
    | _ => none

/-- What every call keeps to. -/
structure NvramSpec (result : Bool) (log : List NvramEvent) : Prop where
  once : (driverWrites log).length ≤ 1
  /-- The driver is given exactly the calibration data, after a complete read of a file
  whose last size seen is valid. -/
  exact_data : ∀ data accepted, (data, accepted) ∈ driverWrites log →
    ∃ seen size file content rest,
      log = seen.map .stat ++ .read (some file) :: .readMac content ::
        .write data accepted :: rest ∧
      ValidSize seen size ∧ file.length = size + 2 ∧ IsNvramData size file content data
  /-- Readiness is published only behind a write that the driver accepted. -/
  ready_after : ∀ before published after, log = before ++ .ready published :: after →
    ∃ data, (data, true) ∈ driverWrites before
  returns : result = true ↔
    (∃ data, (data, true) ∈ driverWrites log) ∧ .ready true ∈ log

section Outcomes

variable {seen : List StatResult} {size : Nat} {file data : List UInt8}
  {content : Option (List UInt8)}

@[simp]
theorem driverWrites_stat (seen : List StatResult) (rest : List NvramEvent) :
    driverWrites (seen.map .stat ++ rest) = driverWrites rest := by
  simp [driverWrites]

/-- A record without a write and without readiness. -/
theorem nvramSpec_of_quiet {log : List NvramEvent} (quiet : driverWrites log = [])
    (unready : ∀ published, .ready published ∉ log) : NvramSpec false log where
  once := by rw [quiet]; exact Nat.zero_le 1
  exact_data data accepted member := by
    rw [quiet] at member
    exact nomatch member
  ready_after before published after split := by
    refine absurd ?_ (unready published)
    rw [split]
    exact List.mem_append_right before List.mem_cons_self
  returns := iff_of_false Bool.false_ne_true fun both => unready true both.2

theorem nvramSpec_of_refused (valid : ValidSize seen size) (complete : file.length = size + 2)
    (exact : IsNvramData size file content data) :
    NvramSpec false
      (seen.map .stat ++ [.read (some file), .readMac content, .write data false]) where
  once := by rw [driverWrites_stat]; exact Nat.le_refl 1
  exact_data _ _ member := by
    rw [driverWrites_stat] at member
    obtain ⟨⟩ := List.mem_singleton.mp member
    exact ⟨seen, size, file, content, [], rfl, valid, complete, exact⟩
  ready_after before published after split := by
    have member : .ready published ∈
        seen.map NvramEvent.stat ++ [.read (some file), .readMac content, .write data false] := by
      rw [split]
      exact List.mem_append_right before List.mem_cons_self
    simp at member
  returns := by simp

/-- Readiness is the last event, and the write stands before it. -/
theorem ready_split {start before after : List NvramEvent} {last published : Bool}
    (unready : .ready published ∉ start)
    (split : start ++ [.ready last] = before ++ .ready published :: after) :
    start <+: before := by
  rcases List.append_eq_append_iff.mp split with ⟨more, rfl, -⟩ | ⟨more, start_eq, tail_eq⟩
  · exact ⟨more, rfl⟩
  · cases more with
    | nil => exact ⟨[], by rw [start_eq, List.append_nil, List.append_nil]⟩
    | cons event more =>
        obtain ⟨rfl, -⟩ := List.cons.inj tail_eq
        refine absurd ?_ unready
        rw [start_eq]
        exact List.mem_append_right before List.mem_cons_self

theorem nvramSpec_of_accepted (valid : ValidSize seen size) (complete : file.length = size + 2)
    (exact : IsNvramData size file content data) (published : Bool) :
    NvramSpec published
      (seen.map .stat ++
        [.read (some file), .readMac content, .write data true, .ready published]) where
  once := by rw [driverWrites_stat]; exact Nat.le_refl 1
  exact_data _ _ member := by
    rw [driverWrites_stat] at member
    obtain ⟨⟩ := List.mem_singleton.mp member
    exact ⟨seen, size, file, content, [.ready published], rfl, valid, complete, exact⟩
  ready_after before other after split := by
    have split' : (seen.map NvramEvent.stat ++
        [.read (some file), .readMac content, .write data true]) ++ [.ready published] =
        before ++ .ready other :: after := by
      rw [← split, List.append_assoc]
      rfl
    obtain ⟨more, rfl⟩ := ready_split (by simp) split'
    exact ⟨data, by simp [driverWrites]⟩
  returns := by simp [driverWrites]

end Outcomes

/-- Whatever the calls answer, the driver gets exactly the calibration data or nothing, and
readiness follows the driver's acceptance. -/
theorem nvram_payload_exact (answers : Nat → Answer) :
    NvramSpec (nvramCall answers).1 (nvramCall answers).2 := by
  have outcome := nvramCall_outcome answers
  generalize (nvramCall answers).1 = result at outcome ⊢
  generalize (nvramCall answers).2 = log at outcome ⊢
  cases outcome with
  | unsized seen =>
      apply nvramSpec_of_quiet
      · simp [driverWrites]
      · simp
  | unread seen content =>
      apply nvramSpec_of_quiet
      · simp [driverWrites]
      · simp
  | refused valid complete exact => exact nvramSpec_of_refused valid complete exact
  | accepted valid complete exact => exact nvramSpec_of_accepted valid complete exact result

/-- A file of 258 zero bytes, and the address `2:aa:22:33:44:ff` between white space. -/
example :
    nvramCall (fun _ =>
      { stat := .found true 258
        file := some (List.replicate 258 0)
        mac := some ("  02:Aa:22:33:44:fF\n".toList.map Char.toUInt8)
        accepted := true
        published := true }) =
      (true,
        [.stat (.found true 258), .read (some (List.replicate 258 0)),
          .readMac (some ("  02:Aa:22:33:44:fF\n".toList.map Char.toUInt8)),
          .write (nvramCommand ++ List.replicate 4 0 ++ [2, 0xaa, 0x22, 0x33, 0x44, 0xff] ++
            List.replicate 246 0) true,
          .ready true]) := by
  decide +kernel

end K50sv1.WlanAssistant
