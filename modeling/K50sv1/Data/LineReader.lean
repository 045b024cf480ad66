import Mathlib.Data.List.Basic

/-!
# Reading a text with `fgets`

`fgets` with a buffer of a fixed size takes a line at a time, and a line that does not fit in
several pieces.  A text that consists of whole lines is read line by line: no piece reaches
beyond the end of its line.
-/

namespace K50sv1.Data.LineReader

/-- `'\n'`. -/
def newline : UInt8 := 0x0a

/-- What one call of `fgets` takes when `room` bytes fit, and what it leaves. -/
def fgets : Nat → List UInt8 → List UInt8 × List UInt8
  | 0, text => ([], text)
  | _ + 1, [] => ([], [])
  | room + 1, byte :: text =>
      if byte = newline then ([byte], text)
      else (byte :: (fgets room text).1, (fgets room text).2)

/-- At most `calls` calls of `fgets`, up to the end of the text. -/
def readAll (room : Nat) : Nat → List UInt8 → List (List UInt8)
  | 0, _ => []
  | _ + 1, [] => []
  | calls + 1, byte :: text =>
      (fgets room (byte :: text)).1 :: readAll room calls (fgets room (byte :: text)).2

/-- The pieces that a loop over `fgets` reads. -/
def reads (room : Nat) (text : List UInt8) : List (List UInt8) :=
  readAll room text.length text

variable {room : Nat} {text : List UInt8}

/-! ## One call -/

theorem fgets_append (room : Nat) (text : List UInt8) :
    (fgets room text).1 ++ (fgets room text).2 = text := by
  induction text generalizing room with
  | nil => cases room <;> rfl
  | cons byte text ih =>
      cases room with
      | zero => rfl
      | succ room =>
          rw [fgets]
          split_ifs
          · rfl
          · simp [ih]

theorem length_fgets_lt (byte : UInt8) (text : List UInt8) :
    (fgets (room + 1) (byte :: text)).2.length < (byte :: text).length := by
  rw [fgets]
  split_ifs
  · simp
  · have whole := congrArg List.length (fgets_append room text)
    simp only [List.length_append] at whole
    simp only [List.length_cons]
    omega

/-- A text behind a line is not touched. -/
theorem fgets_append_of_mem {front : List UInt8} (line : newline ∈ front) (text : List UInt8) :
    fgets room (front ++ text) = ((fgets room front).1, (fgets room front).2 ++ text) := by
  induction front generalizing room with
  | nil => cases line
  | cons byte front ih =>
      cases room with
      | zero => rfl
      | succ room =>
          rw [List.cons_append, fgets, fgets]
          by_cases ends : byte = newline
          · rw [if_pos ends, if_pos ends]
          · have later := (List.mem_cons.mp line).resolve_left (Ne.symm ends)
            rw [if_neg ends, if_neg ends, ih later]

/-- The beginning of a line is taken as a whole if it fits. -/
theorem fgets_head {head : List UInt8} (within : newline ∉ head) (fits : head.length ≤ room)
    (text : List UInt8) :
    fgets room (head ++ text) = (head ++ (fgets (room - head.length) text).1,
      (fgets (room - head.length) text).2) := by
  induction head generalizing room with
  | nil => rfl
  | cons byte head ih =>
      cases room with
      | zero => simp at fits
      | succ room =>
          have other : byte ≠ newline := fun same => within (same ▸ List.mem_cons_self)
          rw [List.cons_append, fgets, if_neg other,
            ih (fun later => within (List.mem_cons_of_mem _ later)) (Nat.le_of_succ_le_succ fits),
            List.length_cons, Nat.add_sub_add_right, List.cons_append]

/-! ## Whole texts -/

theorem readAll_of_length_le {calls : Nat} (enough : text.length ≤ calls) :
    readAll (room + 1) calls text = reads (room + 1) text := by
  suffices same : ∀ first second, text.length ≤ first → text.length ≤ second →
      readAll (room + 1) first text = readAll (room + 1) second text from
    same _ _ enough (Nat.le_refl _)
  intro first
  induction first generalizing text with
  | zero =>
      intro second none _
      obtain rfl := List.eq_nil_of_length_eq_zero (Nat.le_zero.mp none)
      cases second <;> rfl
  | succ first ih =>
      intro second fits fits'
      cases text with
      | nil => cases second <;> rfl
      | cons byte text =>
          cases second with
          | zero => simp at fits'
          | succ second =>
              have shorter : (fgets (room + 1) (byte :: text)).2.length < (byte :: text).length :=
                length_fgets_lt byte text
              rw [readAll, readAll, ih (by omega) second (by omega) (by omega)]

theorem reads_cons (byte : UInt8) (text : List UInt8) :
    reads (room + 1) (byte :: text) = (fgets (room + 1) (byte :: text)).1 ::
      reads (room + 1) (fgets (room + 1) (byte :: text)).2 := by
  have shorter : (fgets (room + 1) (byte :: text)).2.length < (byte :: text).length :=
    length_fgets_lt byte text
  rw [reads, List.length_cons, readAll]
  rw [readAll_of_length_le (by rw [List.length_cons] at shorter; omega)]

/-- A text of whole lines. -/
def Terminated (text : List UInt8) : Prop :=
  ∀ last ∈ text.getLast?, last = newline

theorem terminated_concat (front : List UInt8) : Terminated (front ++ [newline]) := by
  intro last member
  simpa [eq_comm] using member

theorem Terminated.fgets (terminated : Terminated text) : Terminated (fgets room text).2 := by
  intro last member
  refine terminated last ?_
  rw [← fgets_append room text, List.getLast?_append]
  rw [Option.mem_def] at member
  rw [member]
  rfl

theorem Terminated.mem {byte : UInt8} (terminated : Terminated (byte :: text)) :
    newline ∈ byte :: text := by
  have last := terminated _ (List.getLast?_eq_getLast_of_ne_nil (List.cons_ne_nil byte text))
  exact last ▸ List.getLast_mem (List.cons_ne_nil byte text)

/-- Whole lines are read before what stands behind them. -/
theorem reads_append {front : List UInt8} (terminated : Terminated front) (text : List UInt8) :
    reads (room + 1) (front ++ text) = reads (room + 1) front ++ reads (room + 1) text := by
  induction length_eq : front.length using Nat.strongRecOn generalizing front with
  | _ size ih =>
      cases front with
      | nil => rfl
      | cons byte front =>
          have shorter : (LineReader.fgets (room + 1) (byte :: front)).2.length < size :=
            length_eq ▸ length_fgets_lt byte front
          rw [List.cons_append, reads_cons, reads_cons, ← List.cons_append,
            fgets_append_of_mem terminated.mem, ih _ shorter terminated.fgets rfl,
            List.cons_append]

/-- A text that is made of lines is read line by line. -/
theorem reads_flatMap {α : Type*} {line : α → List UInt8} {items : List α}
    (terminated : ∀ item ∈ items, Terminated (line item)) :
    reads (room + 1) (items.flatMap line) =
      items.flatMap fun item => reads (room + 1) (line item) := by
  induction items with
  | nil => rfl
  | cons item items ih =>
      rw [List.flatMap_cons, List.flatMap_cons, reads_append (terminated item List.mem_cons_self),
        ih fun other member => terminated other (List.mem_cons_of_mem _ member)]

end K50sv1.Data.LineReader
