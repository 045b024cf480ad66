import Mathlib.Tactic.SplitIfs
import K50sv1.WmtLauncher.Protocol.Layout

/-!
# Command frames

`wmt_command_decode` is a chain of checks over a frame of any size.  Its language is
the set of frames `commandFrame session transaction text`, where neither the
transaction is zero nor the text empty, longer than 255 bytes or interrupted by a zero
byte.
-/

namespace K50sv1.WmtLauncher.Protocol

open K50sv1.Data.Bytes

/-- `struct wmt_command`. -/
structure WmtCommand where
  session : UInt64
  transaction : UInt64
  text : Buffer (wmtCmd2CommandMax + 1)
  deriving DecidableEq, Repr

/-- The pointers `frame` and `output` may be null.  The second component is what
`*output` holds afterwards. -/
def wmtCommandDecode (frame : Option (List UInt8)) (session : UInt64)
    (output : Option WmtCommand) : Except Errno Unit × Option WmtCommand :=
  match frame, output with
  | some frame, some previous =>
      if session = 0 then
        (.error .einval, some previous)
      else if frame.length < wmtCmd2FrameHeaderSize then
        (.error .emsgsize, some previous)
      else if read32 frame ≠ wmtCmd2Magic ∨ read16 (frame.drop 4) ≠ wmtCmd2Version then
        (.error .eprotonosupport, some previous)
      else if (read16 (frame.drop 6)).toUInt32 ≠ wmtCmd2Command ∨ read32 (frame.drop 28) ≠ 0 then
        (.error .eproto, some previous)
      else if read64 (frame.drop 8) ≠ session then
        (.error .estale, some previous)
      else if read64 (frame.drop 16) = 0 then
        (.error .eproto, some previous)
      else
        let length := (read32 (frame.drop 24)).toNat
        if length = 0 ∨ wmtCmd2CommandMax < length ∨
            frame.length ≠ wmtCmd2FrameHeaderSize + length then
          (.error .emsgsize, some previous)
        else
          let text := (frame.drop wmtCmd2FrameHeaderSize).take length
          if 0 ∈ text then
            (.error .eproto, some previous)
          else
            (.ok (), some
              { session := read64 (frame.drop 8)
                transaction := read64 (frame.drop 16)
                text := .fill (wmtCmd2CommandMax + 1) text })
  | _, _ => (.error .einval, output)

/-! ## The grammar -/

/-- A text that a command may carry. -/
structure CommandText where
  bytes : List UInt8
  nonempty : bytes ≠ []
  short : bytes.length ≤ wmtCmd2CommandMax
  noNul : 0 ∉ bytes

/-- The header of a command frame. -/
def commandHeader (session transaction : UInt64) (length : Nat) : WmtCmd2Header where
  magic := wmtCmd2Magic
  version := wmtCmd2Version
  kind := wmtCmd2Command.toUInt16
  sessionId := session
  transactionId := transaction
  payloadLen := UInt32.ofNat length
  result := 0

/-- The frame of a command. -/
def commandFrame (session transaction : UInt64) (text : List UInt8) : List UInt8 :=
  (commandHeader session transaction text.length).bytes ++ text

theorem length_commandFrame (session transaction : UInt64) (text : List UInt8) :
    (commandFrame session transaction text).length = wmtCmd2FrameHeaderSize + text.length := by
  simp [commandFrame]

@[simp]
theorem decode_commandFrame (session transaction : UInt64) (text : List UInt8) :
    WmtCmd2Header.decode (commandFrame session transaction text) =
      commandHeader session transaction text.length :=
  WmtCmd2Header.decode_bytes _ text

@[simp]
theorem drop_commandFrame (session transaction : UInt64) (text : List UInt8) :
    (commandFrame session transaction text).drop wmtCmd2FrameHeaderSize = text :=
  List.drop_left' (WmtCmd2Header.length_bytes _)

/-- A frame determines its transaction and its text. -/
theorem commandFrame_inj {session transaction transaction' : UInt64} {text text' : List UInt8}
    (same : commandFrame session transaction text = commandFrame session transaction' text') :
    transaction = transaction' ∧ text = text' := by
  have headers := congrArg WmtCmd2Header.decode same
  have texts := congrArg (List.drop wmtCmd2FrameHeaderSize) same
  rw [decode_commandFrame, decode_commandFrame] at headers
  rw [drop_commandFrame, drop_commandFrame] at texts
  exact ⟨congrArg WmtCmd2Header.transactionId headers, texts⟩

/-! ## Decoding -/

/-- What the checks of the decoder come to, read through the layout. -/
structure Accepted (frame : List UInt8) (session : UInt64) : Prop where
  bound : session ≠ 0
  size : wmtCmd2FrameHeaderSize ≤ frame.length
  magic : (WmtCmd2Header.decode frame).magic = wmtCmd2Magic
  version : (WmtCmd2Header.decode frame).version = wmtCmd2Version
  kind : (WmtCmd2Header.decode frame).kind.toUInt32 = wmtCmd2Command
  result : (WmtCmd2Header.decode frame).result.toUInt32 = 0
  current : (WmtCmd2Header.decode frame).sessionId = session
  started : (WmtCmd2Header.decode frame).transactionId ≠ 0
  nonempty : (WmtCmd2Header.decode frame).payloadLen.toNat ≠ 0
  short : (WmtCmd2Header.decode frame).payloadLen.toNat ≤ wmtCmd2CommandMax
  complete : frame.length =
    wmtCmd2FrameHeaderSize + (WmtCmd2Header.decode frame).payloadLen.toNat
  noNul : 0 ∉ frame.drop wmtCmd2FrameHeaderSize

theorem take_payload {frame : List UInt8} {length : Nat}
    (complete : frame.length = wmtCmd2FrameHeaderSize + length) :
    (frame.drop wmtCmd2FrameHeaderSize).take length = frame.drop wmtCmd2FrameHeaderSize := by
  apply List.take_of_length_le
  rw [List.length_drop, complete]
  omega

/-- The decoder either finds everything in order and writes the output, or returns an
error and leaves it alone. -/
theorem wmtCommandDecode_cases (frame : List UInt8) (session : UInt64) (previous : WmtCommand) :
    (Accepted frame session ∧
        wmtCommandDecode (some frame) session (some previous) =
          (.ok (), some
            { session
              transaction := (WmtCmd2Header.decode frame).transactionId
              text := .fill (wmtCmd2CommandMax + 1) (frame.drop wmtCmd2FrameHeaderSize) })) ∨
      (¬Accepted frame session ∧
        ∃ errno, wmtCommandDecode (some frame) session (some previous) =
          (.error errno, some previous)) := by
  unfold wmtCommandDecode
  dsimp only
  by_cases unbound : session = 0
  · rw [if_pos unbound]
    exact .inr ⟨fun accepted => accepted.bound unbound, _, rfl⟩
  rw [if_neg unbound]
  by_cases short : frame.length < wmtCmd2FrameHeaderSize
  · rw [if_pos short]
    exact .inr ⟨fun accepted => absurd accepted.size (Nat.not_le.mpr short), _, rfl⟩
  rw [if_neg short]
  -- from here on the header can be read
  obtain ⟨magic, version, kind, current, transaction, length, result⟩ :=
    reads_decode (Nat.not_lt.mp short)
  rw [magic, version, kind, current, transaction, length, result]
  split_ifs with format wrongKind stale idle wrongSize nul
  · exact .inr ⟨fun accepted => format.elim (· accepted.magic) (· accepted.version), _, rfl⟩
  · exact .inr ⟨fun accepted => wrongKind.elim (· accepted.kind) (· accepted.result), _, rfl⟩
  · exact .inr ⟨fun accepted => stale accepted.current, _, rfl⟩
  · exact .inr ⟨fun accepted => accepted.started idle, _, rfl⟩
  · right
    constructor
    · intro accepted
      rcases wrongSize with empty | long | incomplete
      · exact accepted.nonempty empty
      · exact absurd accepted.short (Nat.not_le.mpr long)
      · exact incomplete accepted.complete
    · exact ⟨_, rfl⟩
  · have complete := not_not.mp (not_or.mp (not_or.mp wrongSize).2).2
    rw [take_payload complete] at nul
    exact .inr ⟨fun accepted => accepted.noNul nul, _, rfl⟩
  · obtain ⟨nonempty, notLong, complete⟩ : _ ∧ _ ∧ _ := by simpa only [not_or] using wrongSize
    rw [take_payload (not_not.mp complete)] at nul ⊢
    left
    constructor
    · exact {
        bound := unbound
        size := Nat.not_lt.mp short
        magic := not_not.mp (not_or.mp format).1
        version := not_not.mp (not_or.mp format).2
        kind := not_not.mp (not_or.mp wrongKind).1
        result := not_not.mp (not_or.mp wrongKind).2
        current := not_not.mp stale
        started := idle
        nonempty
        short := Nat.not_lt.mp notLong
        complete := not_not.mp complete
        noNul := nul }
    · rw [not_not.mp stale]

theorem Accepted.payload_length {frame : List UInt8} {session : UInt64}
    (accepted : Accepted frame session) :
    (frame.drop wmtCmd2FrameHeaderSize).length =
      (WmtCmd2Header.decode frame).payloadLen.toNat := by
  rw [List.length_drop, accepted.complete]
  omega

/-- The header of an accepted frame is that of a command. -/
theorem Accepted.header {frame : List UInt8} {session : UInt64}
    (accepted : Accepted frame session) :
    WmtCmd2Header.decode frame =
      commandHeader session (WmtCmd2Header.decode frame).transactionId
        (frame.drop wmtCmd2FrameHeaderSize).length := by
  have kind := congrArg UInt32.toUInt16 accepted.kind
  have result := congrArg UInt32.toInt32 accepted.result
  have length := accepted.payload_length
  rw [UInt16.toUInt16_toUInt32] at kind
  rw [Int32.toInt32_toUInt32] at result
  apply WmtCmd2Header.ext
  · exact accepted.magic
  · exact accepted.version
  · exact kind
  · exact accepted.current
  · rfl
  · rw [commandHeader, length, UInt32.ofNat_toNat]
  · exact result

/-- The checks of the decoder accept exactly the grammar. -/
theorem accepted_iff {frame : List UInt8} {session : UInt64} (bound : session ≠ 0) :
    Accepted frame session ↔
      ∃ transaction, ∃ text : CommandText,
        transaction ≠ 0 ∧ frame = commandFrame session transaction text.bytes := by
  constructor
  · intro accepted
    have length := accepted.payload_length
    let text : CommandText := {
      bytes := frame.drop wmtCmd2FrameHeaderSize
      nonempty := fun empty => accepted.nonempty (by rw [← length, empty]; rfl)
      short := length ▸ accepted.short
      noNul := accepted.noNul }
    have layout := WmtCmd2Header.bytes_decode accepted.size
    rw [accepted.header] at layout
    exact ⟨_, text, accepted.started, layout.symm⟩
  · rintro ⟨transaction, text, started, rfl⟩
    have short : text.bytes.length < UInt32.size :=
      Nat.lt_of_le_of_lt text.short (by decide)
    have length : (commandHeader session transaction text.bytes.length).payloadLen.toNat =
        text.bytes.length := UInt32.toNat_ofNat_of_lt' short
    constructor
    · exact bound
    · rw [length_commandFrame]
      exact Nat.le_add_right _ _
    · rw [decode_commandFrame]
      rfl
    · rw [decode_commandFrame]
      rfl
    · rw [decode_commandFrame]
      rfl
    · rw [decode_commandFrame]
      rfl
    · rw [decode_commandFrame]
      rfl
    · rw [decode_commandFrame]
      exact started
    · rw [decode_commandFrame, length]
      exact fun empty => text.nonempty (List.length_eq_zero_iff.mp empty)
    · rw [decode_commandFrame, length]
      exact text.short
    · rw [decode_commandFrame, length, length_commandFrame]
    · rw [drop_commandFrame]
      exact text.noNul

/-- The decoder accepts exactly the frames of its grammar.  Transaction and text of an
accepted frame are unique and are what the output holds, the text followed by zero
bytes; any other frame is refused with an error and leaves the output alone. -/
theorem command_decode (frame : List UInt8) (session : UInt64) (bound : session ≠ 0)
    (previous : WmtCommand) :
    ((wmtCommandDecode (some frame) session (some previous)).1 = .ok () ↔
        ∃ transaction, ∃ text : CommandText,
          transaction ≠ 0 ∧ frame = commandFrame session transaction text.bytes) ∧
      (∀ transaction, ∀ text : CommandText, transaction ≠ 0 →
        frame = commandFrame session transaction text.bytes →
        (∀ transaction' text', frame = commandFrame session transaction' text' →
          transaction' = transaction ∧ text' = text.bytes) ∧
        ∃ output, (wmtCommandDecode (some frame) session (some previous)).2 = some output ∧
          output.session = session ∧ output.transaction = transaction ∧
          output.text.bytes = text.bytes ++
            List.replicate (wmtCmd2CommandMax + 1 - text.bytes.length) 0) ∧
      ((wmtCommandDecode (some frame) session (some previous)).1 ≠ .ok () →
        ∃ errno, wmtCommandDecode (some frame) session (some previous) =
          (.error errno, some previous)) := by
  rcases wmtCommandDecode_cases frame session previous with
    ⟨accepted, decoded⟩ | ⟨refused, errno, failed⟩
  · have grammar := (accepted_iff bound).mp accepted
    rw [decoded]
    constructor
    · exact ⟨fun _ => grammar, fun _ => rfl⟩
    constructor
    · rintro transaction text - rfl
      constructor
      · intro transaction' text' same
        obtain ⟨rfl, rfl⟩ := commandFrame_inj same
        exact ⟨rfl, rfl⟩
      · refine ⟨_, rfl, rfl, ?_, ?_⟩
        · rw [decode_commandFrame]
          rfl
        · rw [drop_commandFrame, Buffer.bytes_fill (Nat.le_succ_of_le text.short)]
    · exact fun failed => absurd rfl failed
  · rw [failed]
    constructor
    · constructor
      · intro succeeded
        contradiction
      · exact fun grammar => absurd ((accepted_iff bound).mpr grammar) refused
    constructor
    · exact fun transaction text started layout =>
        absurd ((accepted_iff bound).mpr ⟨transaction, text, started, layout⟩) refused
    · exact fun _ => ⟨errno, rfl⟩

theorem command_decode_srhPatch :
    (wmtCommandDecode (some (commandFrame 7 9 (ascii "srh_patch"))) 7
      (some ⟨0, 0, .zero _⟩)).1 = .ok () :=
  (command_decode _ 7 (by decide) _).1.mpr
    ⟨9, ⟨ascii "srh_patch", by decide, by decide, by decide⟩, by decide, rfl⟩

end K50sv1.WmtLauncher.Protocol
