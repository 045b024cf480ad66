import K50sv1.WmtLauncher.Firmware.BtVersion

/-!
# Bluetooth version extraction, access by access

`btVersion` says which text `bt_version` extracts.  Here the same function is modelled
with the pointers and lengths of the source: every `memcmp`, `memchr` and `memcpy` goes
through `region`, which fails for bytes outside the array, and lengths are differences of
`size_t`.  No access fails, so both models agree, and the text is the one its markers
determine.
-/

namespace K50sv1.WmtLauncher.Firmware

open K50sv1.Data
open K50sv1.Data.Bytes
open K50sv1.Data.Search (OccursAt)

/-! ## Accesses -/

/-- A difference of `size_t`. -/
def sizeSub (first second : Nat) : Nat :=
  (first + 2 ^ 64 - second) % 2 ^ 64

theorem sizeSub_of_le {first second : Nat} (le : second ≤ first) (bound : first < 2 ^ 64) :
    sizeSub first second = first - second := by
  rw [sizeSub, Nat.sub_add_comm le, Nat.add_mod_right, Nat.mod_eq_of_lt (by omega)]

/-- The `length` bytes at `position`; `none` if one of them is outside the array. -/
def region (data : List UInt8) (position length : Nat) : Option (List UInt8) :=
  if position + length ≤ data.length then some ((data.drop position).take length) else none

theorem region_eq {data : List UInt8} {position length : Nat}
    (inside : position + length ≤ data.length) :
    region data position length = some ((data.drop position).take length) :=
  if_pos inside

/-- `memcmp` with a text answers 0. -/
def memcmpEqual (data : List UInt8) (position : Nat) (text : List UInt8) : Option Bool :=
  (region data position text.length).map (· = text)

/-- `memchr` for the zero byte, over all of the region. -/
def memchrNul (data : List UInt8) (position size : Nat) : Option (Option Nat) :=
  (region data position size).map fun bytes =>
    let before := bytes.takeWhile (· ≠ 0)
    if before.length < bytes.length then some (position + before.length) else none

/-- A write into a buffer; `none` if a byte of it is outside. -/
def writeBuffer {size : Nat} (buffer : Buffer size) (offset : Nat) (bytes : List UInt8) :
    Option (Buffer size) :=
  if fits : offset + bytes.length ≤ size then
    some ⟨overwrite buffer.bytes offset bytes,
      (length_overwrite (buffer.length_eq.symm ▸ fits)).trans buffer.length_eq⟩
  else
    none

/-- The loop of `find_bytes`, with the number of positions left. -/
def findBytesLoop (data : List UInt8) (text : List UInt8) : Nat → Nat → Option (Option Nat)
  | 0, _ => some none
  | remaining + 1, position => do
      if ← memcmpEqual data position text then
        return some position
      findBytesLoop data text remaining (position + 1)

/-- `find_bytes` on the `size` bytes at `base`. -/
def findBytesAt (data : List UInt8) (base size : Nat) (text : List UInt8) :
    Option (Option Nat) :=
  if size < text.length then
    some none
  else
    findBytesLoop data text (sizeSub size text.length + 1) base

/-- The end of `bt_version`, with what `version` held before. -/
def copyVersionAt (data : List UInt8) (version : Buffer wmtBtVersionSize)
    (text length : Nat) : Option (Buffer wmtBtVersionSize) := do
  let length := if length ≥ wmtBtVersionSize then wmtBtVersionSize - 1 else length
  let bytes ← region data text length
  let version ← writeBuffer version 0 bytes
  let version ← writeBuffer version length [0]
  return cutLine version

/-- `bt_version` once both markers are found. -/
def btVersionBetween (data : List UInt8) (version : Buffer wmtBtVersionSize)
    (start stop : Nat) : Option (Option (Buffer wmtBtVersionSize)) := do
  let span := sizeSub stop start
  let span := match ← memchrNul data start span with
    | some nul => sizeSub nul start
    | none => span
  match ← findBytesAt data start span (ascii "t-neptune") with
  | some text => some (← copyVersionAt data version text (sizeSub stop text))
  | none =>
      match ← findBytesAt data start span (ascii "= debug") with
      | some _ => some (← copyVersionAt data version 0 14)
      | none => return none

/-- `bt_version` on an array, with what `version` held before. -/
def btVersionAt (data : List UInt8) (version : Buffer wmtBtVersionSize) :
    Option (Except Errno (Option (Buffer wmtBtVersionSize))) := do
  match ← findBytesAt data 0 data.length startMarker with
  | none =>
      match ← findBytesAt data 0 data.length endMarker with
      | some _ => return .error .ebadmsg
      | none => return .ok none
  | some start =>
      let size := sizeSub (sizeSub data.length start) startMarker.length
      match ← findBytesAt data (start + startMarker.length) size endMarker with
      | none => return .error .ebadmsg
      | some stop => return .ok (← btVersionBetween data version start stop)

/-! ## The text -/

/-- What is recognized between two markers: the bytes before the first zero byte. -/
def recognized (data : List UInt8) (start stop : Nat) : List UInt8 :=
  ((data.drop start).take (stop - start)).takeWhile (· ≠ 0)

/-- The text that belongs to a pair of markers. -/
def textBetween (data : List UInt8) (start stop : Nat) : Option (List UInt8) :=
  match findBytes (recognized data start stop) (ascii "t-neptune") with
  | some offset => some ((data.drop (start + offset)).take (stop - (start + offset)))
  | none =>
      if (findBytes (recognized data start stop) (ascii "= debug")).isSome then
        some (data.take 14)
      else
        none

/-- The bytes that `bt_version` copies, before they are cut to the size of `version`. -/
def btText (data : List UInt8) : Except Errno (Option (List UInt8)) :=
  match findBytes data startMarker with
  | none => if (findBytes data endMarker).isSome then .error .ebadmsg else .ok none
  | some start =>
      let behind := start + startMarker.length
      match findBytes (data.drop behind) endMarker with
      | none => .error .ebadmsg
      | some distance => .ok (textBetween data start (behind + distance))

theorem btVersion_eq (data : List UInt8) :
    btVersion data = (btText data).map (Option.map copyVersion) := by
  unfold btVersion btText
  cases findBytes data startMarker with
  | none =>
      dsimp only
      split_ifs <;> rfl
  | some start =>
      dsimp only
      cases findBytes (data.drop (start + startMarker.length)) endMarker with
      | none => rfl
      | some distance =>
          dsimp only
          rw [← recognized, textBetween]
          cases findBytes (recognized data start (start + startMarker.length + distance))
            (ascii "t-neptune") with
          | some offset => rfl
          | none =>
              dsimp only
              split_ifs <;> rfl

/-- The copy of a text over what a buffer held. -/
def copyInto (previous : Buffer wmtBtVersionSize) (text : List UInt8) :
    Buffer wmtBtVersionSize :=
  cutLine
    { bytes := overwrite previous.bytes 0 (text.take (wmtBtVersionSize - 1) ++ [0])
      length_eq := by
        rw [length_overwrite, previous.length_eq]
        rw [previous.length_eq, List.length_append, List.length_take, List.length_singleton,
          wmtBtVersionSize]
        omega }

/-! ## No access fails -/

section Accesses

variable {data : List UInt8}

theorem memcmpEqual_eq {text : List UInt8} {position : Nat}
    (inside : position + text.length ≤ data.length) :
    memcmpEqual data position text = some (decide (text <+: data.drop position)) := by
  rw [memcmpEqual, region_eq inside, Option.map_some, Option.some.injEq, decide_eq_decide,
    List.prefix_iff_eq_take, eq_comm]

/-- The loop compares at every position of its window. -/
theorem findBytesLoop_eq {text : List UInt8} {remaining position : Nat} (nonempty : text ≠ [])
    (inside : position + (remaining + text.length - 1) ≤ data.length) :
    findBytesLoop data text remaining position =
      some ((findBytes ((data.drop position).take (remaining + text.length - 1)) text).map
        (position + ·)) := by
  have positive : 0 < text.length := List.length_pos_iff.mpr nonempty
  induction remaining generalizing position with
  | zero =>
      have missing : findBytes ((data.drop position).take (0 + text.length - 1)) text = none := by
        apply Search.find_eq_none_iff.mpr
        intro occurs
        have length := occurs.length_le
        rw [List.length_take] at length
        omega
      rw [missing]
      rfl
  | succ remaining ih =>
      have fits : position + text.length ≤ data.length := by omega
      have start : position < data.length := by omega
      have window : (data.drop position).take (remaining + 1 + text.length - 1) =
          data[position] :: (data.drop (position + 1)).take (remaining + text.length - 1) := by
        have size : remaining + 1 + text.length - 1 = remaining + text.length - 1 + 1 := by omega
        rw [List.drop_eq_getElem_cons start, size, List.take_succ_cons]
      have here : text <+: data[position] ::
          (data.drop (position + 1)).take (remaining + text.length - 1) ↔
            text <+: data.drop position := by
        rw [← window, List.prefix_take_iff, and_iff_left]
        omega
      rw [findBytesLoop, memcmpEqual_eq fits, window, findBytes, Search.find]
      simp only [Option.bind_eq_bind, Option.bind_some, decide_eq_true_eq, here]
      split_ifs with found
      · rfl
      · rw [ih (by omega), Option.map_map, findBytes]
        congr 2
        funext distance
        exact Nat.add_right_comm position 1 distance |>.trans (Nat.add_assoc _ _ _)

theorem findBytesAt_eq {text : List UInt8} {base size : Nat} (nonempty : text ≠ [])
    (inside : base + size ≤ data.length) (bound : size < 2 ^ 64) :
    findBytesAt data base size text =
      some ((findBytes ((data.drop base).take size) text).map (base + ·)) := by
  have positive : 0 < text.length := List.length_pos_iff.mpr nonempty
  rw [findBytesAt]
  split_ifs with short
  · have missing : findBytes ((data.drop base).take size) text = none := by
      apply Search.find_eq_none_iff.mpr
      intro occurs
      have length := occurs.length_le
      rw [List.length_take] at length
      omega
    rw [missing]
    rfl
  · have long : text.length ≤ size := Nat.le_of_not_lt short
    have positions : size - text.length + 1 + text.length - 1 = size := by omega
    rw [sizeSub_of_le long bound, findBytesLoop_eq nonempty (by omega), positions]

theorem memchrNul_eq {position size : Nat} (inside : position + size ≤ data.length) :
    let before := ((data.drop position).take size).takeWhile (· ≠ 0)
    memchrNul data position size =
      some (if before.length < size then some (position + before.length) else none) := by
  have length : ((data.drop position).take size).length = size := by
    rw [List.length_take, List.length_drop]
    omega
  simp only [memchrNul, region_eq inside, Option.map_some, length]

theorem copyVersionAt_eq (previous : Buffer wmtBtVersionSize) {text length : Nat}
    (inside : text + length ≤ data.length) :
    copyVersionAt data previous text length =
      some (copyInto previous ((data.drop text).take length)) := by
  have cut : (if length ≥ wmtBtVersionSize then wmtBtVersionSize - 1 else length) =
      min (wmtBtVersionSize - 1) length := by
    rw [wmtBtVersionSize]
    split_ifs <;> omega
  have copied : ((data.drop text).take (min (wmtBtVersionSize - 1) length)).length =
      min (wmtBtVersionSize - 1) length := by
    rw [List.length_take, List.length_drop]
    omega
  have bytesFit : 0 + ((data.drop text).take (min (wmtBtVersionSize - 1) length)).length ≤
      wmtBtVersionSize := by
    rw [copied, wmtBtVersionSize]
    omega
  have nulFits : min (wmtBtVersionSize - 1) length + [(0 : UInt8)].length ≤ wmtBtVersionSize := by
    rw [List.length_singleton, wmtBtVersionSize]
    omega
  have adjacent : min (wmtBtVersionSize - 1) length =
      0 + ((data.drop text).take (min (wmtBtVersionSize - 1) length)).length := by
    rw [copied, Nat.zero_add]
  simp only [copyVersionAt, cut, region_eq (by omega :
    text + min (wmtBtVersionSize - 1) length ≤ data.length), Option.bind_eq_bind,
    Option.bind_some, writeBuffer, dif_pos bytesFit, dif_pos nulFits, Option.pure_def, copyInto,
    overwrite_overwrite (Nat.zero_le previous.bytes.length) adjacent, List.take_take]

theorem recognized_eq_take (data : List UInt8) (start stop : Nat) :
    recognized data start stop =
      (data.drop start).take (recognized data start stop).length := by
  have isPrefix : recognized data start stop <+: data.drop start :=
    (List.takeWhile_prefix _).trans (List.take_prefix _ _)
  exact List.prefix_iff_eq_take.mp isPrefix

theorem length_recognized_le (data : List UInt8) (start stop : Nat) :
    (recognized data start stop).length ≤ stop - start :=
  ((List.takeWhile_sublist _).length_le).trans (List.length_take_le _ _)

theorem btVersionBetween_eq (previous : Buffer wmtBtVersionSize) {start stop : Nat}
    (long : 14 ≤ data.length) (bound : data.length < 2 ^ 64) (order : start ≤ stop)
    (inside : stop ≤ data.length) :
    btVersionBetween data previous start stop =
      some ((textBetween data start stop).map (copyInto previous)) := by
  have within := length_recognized_le data start stop
  -- the two ways to compute the span agree
  have span : (match (if (recognized data start stop).length < stop - start then
        some (start + (recognized data start stop).length) else none) with
      | some nul => sizeSub nul start
      | none => stop - start) = (recognized data start stop).length := by
    split_ifs with found
    · dsimp only
      rw [sizeSub_of_le (Nat.le_add_right _ _) (by omega), Nat.add_sub_cancel_left]
    · dsimp only
      omega
  have search : ∀ text : List UInt8, text ≠ [] →
      findBytesAt data start (recognized data start stop).length text =
        some ((findBytes (recognized data start stop) text).map (start + ·)) := by
    intro text nonempty
    rw [findBytesAt_eq nonempty (by omega) (by omega), ← recognized_eq_take]
  have nul : memchrNul data start (stop - start) =
      some (if (recognized data start stop).length < stop - start then
        some (start + (recognized data start stop).length) else none) :=
    memchrNul_eq (by omega)
  rw [btVersionBetween, sizeSub_of_le order (by omega), nul]
  simp only [Option.bind_eq_bind, Option.bind_some, span, search (ascii "t-neptune") (by decide),
    search (ascii "= debug") (by decide), textBetween]
  cases neptune : findBytes (recognized data start stop) (ascii "t-neptune") with
  | some offset =>
      have offsetLe := (Search.find_split neptune).2
      dsimp only [Option.map_some]
      rw [sizeSub_of_le (by omega) (by omega), copyVersionAt_eq previous (by omega)]
      rfl
  | none =>
      dsimp only [Option.map_none]
      cases findBytes (recognized data start stop) (ascii "= debug") with
      | some offset =>
          dsimp only [Option.map_some]
          rw [copyVersionAt_eq previous (by omega)]
          rfl
      | none => rfl

end Accesses

/-- Every access of `bt_version` is inside the array, which is at least as long as the
copy of the fallback, and inside `version`. -/
theorem btVersionAt_eq {data : List UInt8} (long : 14 ≤ data.length)
    (bound : data.length < 2 ^ 64) (previous : Buffer wmtBtVersionSize) :
    btVersionAt data previous = some ((btText data).map (Option.map (copyInto previous))) := by
  have whole : ∀ text : List UInt8, text ≠ [] →
      findBytesAt data 0 data.length text = some (findBytes data text) := by
    intro text nonempty
    rw [findBytesAt_eq nonempty (Nat.zero_add _).le bound, List.drop_zero, List.take_length]
    simp
  rw [btVersionAt, whole startMarker (by decide), btText]
  simp only [Option.bind_eq_bind, Option.bind_some]
  cases found : findBytes data startMarker with
  | none =>
      dsimp only
      rw [whole endMarker (by decide), Option.bind_some]
      cases findBytes data endMarker <;> rfl
  | some start =>
      dsimp only
      have inside := (Search.find_split found).2
      have rest : (data.drop (start + startMarker.length)).take
          (data.length - start - startMarker.length) =
            data.drop (start + startMarker.length) := by
        apply List.take_of_length_le
        rw [List.length_drop]
        omega
      rw [sizeSub_of_le (by omega) bound, sizeSub_of_le (by omega) (by omega),
        findBytesAt_eq (by decide) (by omega) (by omega), rest, Option.bind_some]
      cases distant : findBytes (data.drop (start + startMarker.length)) endMarker with
      | none => rfl
      | some distance =>
          have distanceLe := (Search.find_split distant).2
          rw [List.length_drop] at distanceLe
          dsimp only [Option.map_some]
          rw [btVersionBetween_eq previous long bound (by omega) (by omega)]
          rfl

/-! ## The resulting C string -/

/-- The longest beginning without LF and zero bytes. -/
def firstLine (text : List UInt8) : List UInt8 :=
  text.takeWhile fun byte => byte ≠ 0x0a ∧ byte ≠ 0

theorem cString_cutLine {size : Nat} (buffer : Buffer size) :
    (cutLine buffer).cString = buffer.cString.takeWhile (· ≠ 0x0a) := by
  have isPrefix : buffer.cString.takeWhile (· ≠ 0x0a) <+: buffer.bytes :=
    (List.takeWhile_prefix _).trans (List.takeWhile_prefix _)
  unfold cutLine
  dsimp only
  split_ifs with shorter
  · rw [Buffer.cString]
    dsimp only
    have inside : (buffer.cString.takeWhile (· ≠ 0x0a)).length < buffer.bytes.length :=
      Nat.lt_of_lt_of_le shorter (List.takeWhile_sublist _).length_le
    rw [List.set_eq_take_append_cons_drop, if_pos inside,
      ← List.prefix_iff_eq_take.mp isPrefix]
    rw [List.takeWhile_append_of_pos]
    · simp
    · intro byte member
      exact decide_eq_true fun zero =>
        buffer.zero_notMem_cString (zero ▸ (List.takeWhile_sublist _).subset member)
  · have whole := (List.takeWhile_prefix (fun byte : UInt8 => decide (byte ≠ 0x0a))
      (l := buffer.cString)).length_le
    exact ((List.takeWhile_sublist _).eq_of_length
      (Nat.le_antisymm whole (Nat.le_of_not_lt shorter))).symm

theorem takeWhile_terminated (text rest : List UInt8) :
    (text ++ 0 :: rest).takeWhile (· ≠ 0) = text.takeWhile (· ≠ 0) := by
  rw [List.takeWhile_append, List.takeWhile_cons_of_neg (by simp), List.append_nil]
  split_ifs with whole
  · exact ((List.takeWhile_sublist _).eq_of_length whole).symm
  · rfl

theorem cString_copyInto (previous : Buffer wmtBtVersionSize) (text : List UInt8) :
    (copyInto previous text).cString = firstLine (text.take (wmtBtVersionSize - 1)) := by
  rw [copyInto, cString_cutLine, Buffer.cString]
  dsimp only
  rw [overwrite_zero, List.append_assoc, List.singleton_append, takeWhile_terminated,
    List.takeWhile_takeWhile, firstLine]
  simp only [decide_eq_true_eq]

/-- With a zeroed buffer the result is that of `btVersion`. -/
theorem copyInto_zero (text : List UInt8) : copyInto (.zero _) text = copyVersion text := by
  rw [copyInto, copyVersion]
  congr 1
  apply Buffer.ext
  have short : (text.take (wmtBtVersionSize - 1)).length + 1 ≤ wmtBtVersionSize := by
    rw [List.length_take, wmtBtVersionSize]
    omega
  dsimp only
  rw [overwrite_zero, Buffer.bytes_fill (by omega), Buffer.zero,
    Buffer.bytes_fill (Nat.zero_le _), List.nil_append, List.drop_replicate, List.length_append,
    List.length_singleton, List.append_assoc, List.singleton_append, ← List.replicate_succ]
  congr 2
  rw [List.length_nil]
  omega

/-- What the search for ROM patches uses is what the accesses compute. -/
theorem btVersionAt_zero {data : List UInt8} (long : 14 ≤ data.length)
    (bound : data.length < 2 ^ 64) :
    btVersionAt data (.zero _) = some (btVersion data) := by
  rw [btVersionAt_eq long bound, btVersion_eq]
  congr 3
  funext text
  exact copyInto_zero text

/-! ## The markers -/

/-- The leftmost start marker, the leftmost end marker behind it, and the first zero
byte from the start marker on, or the end marker if there is none before it. -/
structure Marked (data : List UInt8) (first last cut : Nat) : Prop where
  start : IsLeast {p | OccursAt startMarker data p} first
  stop : IsLeast {p | first + startMarker.length ≤ p ∧ OccursAt endMarker data p} last
  cut : IsLeast {p | first ≤ p ∧ (p = last ∨ data[p]? = some 0)} cut

/-- The text occurs entirely between two positions. -/
def OccursWithin (text data : List UInt8) (first cut : Nat) : Prop :=
  ∃ p, first ≤ p ∧ p + text.length ≤ cut ∧ OccursAt text data p

section Markers

variable {data : List UInt8}

/-- A list stops being taken at its end or at the first element that fails. -/
theorem isLeast_length_takeWhile (bytes : List UInt8) :
    IsLeast {n | n = bytes.length ∨ bytes[n]? = some 0} (bytes.takeWhile (· ≠ 0)).length := by
  induction bytes with
  | nil => simp [IsLeast, lowerBounds]
  | cons byte rest ih =>
      by_cases nul : byte = 0
      · rw [List.takeWhile_cons_of_neg (by simp [nul])]
        exact ⟨.inr (by simp [nul]), fun n _ => Nat.zero_le n⟩
      · rw [List.takeWhile_cons_of_pos (by simp [nul]), List.length_cons]
        constructor
        · rcases ih.1 with whole | found
          · exact .inl (congrArg (· + 1) whole)
          · exact .inr found
        · rintro (_ | n) stops
          · simp [nul] at stops
          · apply Nat.succ_le_succ
            apply ih.2
            simpa using stops

theorem isLeast_recognized {start stop : Nat} (order : start ≤ stop)
    (inside : stop ≤ data.length) :
    IsLeast {p | start ≤ p ∧ (p = stop ∨ data[p]? = some 0)}
      (start + (recognized data start stop).length) := by
  have window : ∀ n, (n = ((data.drop start).take (stop - start)).length ∨
      ((data.drop start).take (stop - start))[n]? = some 0) ↔
        (start + n = stop ∨ start + n < stop ∧ data[start + n]? = some 0) := by
    intro n
    rw [List.length_take, List.length_drop, List.getElem?_take, List.getElem?_drop]
    by_cases before : n < stop - start
    · have inner : start + n < stop := by omega
      have short : n ≠ min (stop - start) (data.length - start) := by omega
      simp [before, inner, inner.ne, short]
    · have outer : ¬start + n < stop := by omega
      simp only [before, outer, if_false, reduceCtorEq, or_false, false_and]
      omega
  obtain ⟨stops, least⟩ := isLeast_length_takeWhile ((data.drop start).take (stop - start))
  constructor
  · refine ⟨Nat.le_add_right _ _, ?_⟩
    exact ((window _).mp stops).imp_right And.right
  · rintro p ⟨behind, stopsAt⟩
    obtain ⟨n, rfl⟩ := Nat.exists_eq_add_of_le behind
    apply Nat.add_le_add_left
    by_cases before : start + n < stop
    · apply least
      exact (window n).mpr (stopsAt.imp_right fun nul => ⟨before, nul⟩)
    · have within := length_recognized_le data start stop
      change (recognized data start stop).length ≤ n
      omega

/-- Searching is looking for the markers. -/
theorem marked_of_find {start distance : Nat}
    (found : findBytes data startMarker = some start)
    (distant : findBytes (data.drop (start + startMarker.length)) endMarker = some distance) :
    Marked data start (start + startMarker.length + distance)
      (start + (recognized data start (start + startMarker.length + distance)).length) := by
  have inside := (Search.find_split distant).2
  rw [List.length_drop] at inside
  have nonempty : 0 < endMarker.length := by decide
  constructor
  · exact Search.find_eq_some_iff.mp found
  · obtain ⟨occurs, least⟩ := Search.find_eq_some_iff.mp distant
    rw [Set.mem_ofPred_eq, OccursAt, List.drop_drop] at occurs
    refine ⟨⟨Nat.le_add_right _ _, occurs⟩, ?_⟩
    rintro p ⟨behind, other⟩
    obtain ⟨n, rfl⟩ := Nat.exists_eq_add_of_le behind
    apply Nat.add_le_add_left
    apply least
    rwa [Set.mem_ofPred_eq, OccursAt, List.drop_drop]
  · exact isLeast_recognized (by omega) (by omega)

theorem Marked.unique {first last cut first' last' cut' : Nat}
    (marked : Marked data first last cut) (other : Marked data first' last' cut') :
    first = first' ∧ last = last' ∧ cut = cut' := by
  obtain rfl := marked.start.unique other.start
  obtain rfl := marked.stop.unique other.stop
  exact ⟨rfl, rfl, marked.cut.unique other.cut⟩

/-- An occurrence among the recognized bytes is one before the cut. -/
theorem occursAt_recognized {text : List UInt8} (nonempty : text ≠ []) {start stop offset : Nat} :
    OccursAt text (recognized data start stop) offset ↔
      OccursAt text data (start + offset) ∧
        start + offset + text.length ≤ start + (recognized data start stop).length := by
  have positive : 0 < text.length := List.length_pos_iff.mpr nonempty
  conv_lhs => rw [recognized_eq_take]
  rw [Search.occursAt_window]
  apply and_congr_right
  intro _
  omega

theorem find_recognized_isSome_iff {text : List UInt8} (nonempty : text ≠ []) {start stop : Nat} :
    (findBytes (recognized data start stop) text).isSome = true ↔
      OccursWithin text data start (start + (recognized data start stop).length) := by
  rw [findBytes, Search.find_isSome_iff, Search.infix_iff_occursAt]
  constructor
  · rintro ⟨offset, occurs⟩
    obtain ⟨absolute, within⟩ := (occursAt_recognized nonempty).mp occurs
    exact ⟨start + offset, Nat.le_add_right _ _, within, absolute⟩
  · rintro ⟨p, behind, within, occurs⟩
    obtain ⟨offset, rfl⟩ := Nat.exists_eq_add_of_le behind
    exact ⟨offset, (occursAt_recognized nonempty).mpr ⟨occurs, within⟩⟩

theorem find_recognized_isLeast {text : List UInt8} (nonempty : text ≠ [])
    {start stop offset : Nat}
    (found : findBytes (recognized data start stop) text = some offset) :
    IsLeast {p | start ≤ p ∧
      p + text.length ≤ start + (recognized data start stop).length ∧ OccursAt text data p}
      (start + offset) := by
  obtain ⟨occurs, least⟩ := Search.find_eq_some_iff.mp found
  obtain ⟨absolute, within⟩ := (occursAt_recognized nonempty).mp occurs
  refine ⟨⟨Nat.le_add_right _ _, within, absolute⟩, ?_⟩
  rintro p ⟨behind, inside, other⟩
  obtain ⟨n, rfl⟩ := Nat.exists_eq_add_of_le behind
  apply Nat.add_le_add_left
  exact least ((occursAt_recognized nonempty).mpr ⟨other, inside⟩)

end Markers

/-- A start marker is followed, without overlap, by an end marker. -/
def Paired (data : List UInt8) : Prop :=
  ∃ first last, OccursAt startMarker data first ∧ OccursAt endMarker data last ∧
    first + startMarker.length ≤ last

/-- At least one of the markers occurs. -/
def HasMarker (data : List UInt8) : Prop :=
  (∃ p, OccursAt startMarker data p) ∨ ∃ p, OccursAt endMarker data p

/-- What the two searches for markers find. -/
inductive MarkerSearch (data : List UInt8) : Except Errno (Option (List UInt8)) → Prop
  | unmarked (unmarked : ¬HasMarker data) : MarkerSearch data (.ok none)
  | malformed (occurs : HasMarker data) (unpaired : ¬Paired data) :
      MarkerSearch data (.error .ebadmsg)
  | marked (first last cut : Nat) (paired : Paired data) (marked : Marked data first last cut)
      (recognizes : cut = first + (recognized data first last).length) :
      MarkerSearch data (.ok (textBetween data first last))

theorem findBytes_eq_none_iff {data text : List UInt8} :
    findBytes data text = none ↔ ¬∃ p, OccursAt text data p := by
  rw [findBytes, Search.find_eq_none_iff, Search.infix_iff_occursAt]

theorem btText_markers (data : List UInt8) : MarkerSearch data (btText data) := by
  rw [btText]
  cases found : findBytes data startMarker with
  | none =>
      have noStart := findBytes_eq_none_iff.mp found
      dsimp only
      cases ended : findBytes data endMarker with
      | none =>
          exact .unmarked (not_or.mpr ⟨noStart, findBytes_eq_none_iff.mp ended⟩)
      | some last =>
          refine .malformed (.inr ⟨last, (Search.find_eq_some_iff.mp ended).1⟩) ?_
          rintro ⟨first, -, occurs, -⟩
          exact noStart ⟨first, occurs⟩
  | some start =>
      obtain ⟨occurs, least⟩ := Search.find_eq_some_iff.mp found
      dsimp only
      cases distant : findBytes (data.drop (start + startMarker.length)) endMarker with
      | none =>
          refine .malformed (.inl ⟨start, occurs⟩) ?_
          -- a pair would put an end marker behind the leftmost start marker
          rintro ⟨first, last, startOccurs, endOccurs, apart⟩
          have leftmost := least startOccurs
          apply findBytes_eq_none_iff.mp distant
          refine ⟨last - (start + startMarker.length), ?_⟩
          rw [OccursAt, List.drop_drop, Nat.add_sub_cancel' (by omega)]
          exact endOccurs
      | some distance =>
          have marked := marked_of_find found distant
          exact .marked _ _ _ ⟨_, _, marked.start.1, marked.stop.1.2, marked.stop.1.1⟩ marked rfl

/-- What `bt_version` is meant to return. -/
structure BtVersionSpec (data : List UInt8)
    (result : Except Errno (Option (Buffer wmtBtVersionSize))) : Prop where
  malformed : result = .error .ebadmsg ↔ HasMarker data ∧ ¬Paired data
  returns : result ≠ .error .ebadmsg → ∃ version, result = .ok version
  unmarked : ¬HasMarker data → result = .ok none
  marked : HasMarker data → result ≠ .error .ebadmsg →
    ∃ first last cut, Marked data first last cut
  present : ∀ first last cut, Marked data first last cut →
    ((∃ version, result = .ok (some version)) ↔
      OccursWithin (ascii "t-neptune") data first cut ∨
        OccursWithin (ascii "= debug") data first cut)
  /-- The text from the first `t-neptune` up to the end marker. -/
  neptune : ∀ first last cut position version, Marked data first last cut →
    IsLeast {p | first ≤ p ∧ p + (ascii "t-neptune").length ≤ cut ∧
      OccursAt (ascii "t-neptune") data p} position →
    result = .ok (some version) →
    version.cString = firstLine ((data.drop position).take (min 91 (last - position)))
  /-- Without `t-neptune` the first fourteen bytes of the file. -/
  fallback : ∀ first last cut version, Marked data first last cut →
    ¬OccursWithin (ascii "t-neptune") data first cut → result = .ok (some version) →
    version.cString = firstLine (data.take 14)

/-- The text between markers, by where it is recognized. -/
theorem textBetween_cases (data : List UInt8) (first last : Nat) :
    let cut := first + (recognized data first last).length
    (∃ position, IsLeast {p | first ≤ p ∧ p + (ascii "t-neptune").length ≤ cut ∧
        OccursAt (ascii "t-neptune") data p} position ∧
      textBetween data first last = some ((data.drop position).take (last - position))) ∨
    (¬OccursWithin (ascii "t-neptune") data first cut ∧
      ((OccursWithin (ascii "= debug") data first cut ∧
          textBetween data first last = some (data.take 14)) ∨
        (¬OccursWithin (ascii "= debug") data first cut ∧
          textBetween data first last = none))) := by
  intro cut
  rw [textBetween]
  have debugs : (findBytes (recognized data first last) (ascii "= debug")).isSome = true ↔
      OccursWithin (ascii "= debug") data first cut :=
    find_recognized_isSome_iff (by decide)
  cases found : findBytes (recognized data first last) (ascii "t-neptune") with
  | some offset =>
      exact .inl ⟨first + offset, find_recognized_isLeast (by decide) found, rfl⟩
  | none =>
      have absent : ¬OccursWithin (ascii "t-neptune") data first cut := by
        rw [← find_recognized_isSome_iff (by decide), found]
        simp
      refine .inr ⟨absent, ?_⟩
      by_cases debug : OccursWithin (ascii "= debug") data first cut
      · exact .inl ⟨debug, if_pos (debugs.mpr debug)⟩
      · exact .inr ⟨debug, if_neg (mt debugs.mp debug)⟩

/-- The text that belongs to the markers is copied as it should be. -/
theorem btVersionSpec_marked {data : List UInt8} {first last cut : Nat} (paired : Paired data)
    (marked : Marked data first last cut)
    (recognizes : cut = first + (recognized data first last).length)
    (previous : Buffer wmtBtVersionSize) :
    BtVersionSpec data (.ok ((textBetween data first last).map (copyInto previous))) := by
  have text := textBetween_cases data first last
  rw [← recognizes] at text
  have hasMarker : HasMarker data := .inl ⟨first, marked.start.1⟩
  constructor
  case malformed => simp [paired]
  case returns => exact fun _ => ⟨_, rfl⟩
  case unmarked => exact fun unmarked => absurd hasMarker unmarked
  case marked => exact fun _ _ => ⟨first, last, cut, marked⟩
  case present =>
    intro first' last' cut' other
    obtain ⟨rfl, rfl, rfl⟩ := marked.unique other
    rcases text with ⟨position, least, copied⟩ | ⟨absent, ⟨debug, copied⟩ | ⟨nothing, copied⟩⟩
    · rw [copied]
      exact ⟨fun _ => .inl ⟨position, least.1⟩, fun _ => ⟨_, rfl⟩⟩
    · rw [copied]
      exact ⟨fun _ => .inr debug, fun _ => ⟨_, rfl⟩⟩
    · rw [copied]
      simp [absent, nothing]
  case neptune =>
    intro first' last' cut' position version other least result
    obtain ⟨rfl, rfl, rfl⟩ := marked.unique other
    rcases text with ⟨position', least', copied⟩ | ⟨absent, -⟩
    · obtain rfl := least.unique least'
      rw [copied] at result
      obtain rfl := Option.some.inj (Except.ok.inj result)
      rw [cString_copyInto, List.take_take]
      rfl
    · exact absurd ⟨position, least.1⟩ absent
  case fallback =>
    intro first' last' cut' version other absent result
    obtain ⟨rfl, rfl, rfl⟩ := marked.unique other
    rcases text with ⟨position, least, -⟩ | ⟨-, ⟨-, copied⟩ | ⟨-, copied⟩⟩
    · exact absurd ⟨position, least.1⟩ absent
    · rw [copied] at result
      obtain rfl := Option.some.inj (Except.ok.inj result)
      rw [cString_copyInto, List.take_take]
      rfl
    · rw [copied] at result
      cases Except.ok.inj result

theorem btText_spec (data : List UInt8) (previous : Buffer wmtBtVersionSize) :
    BtVersionSpec data ((btText data).map (Option.map (copyInto previous))) := by
  have search := btText_markers data
  generalize btText data = text at search
  cases search with
  | unmarked unmarked =>
      have absurdly : ∀ first last cut, Marked data first last cut → False :=
        fun first _ _ marked => unmarked (.inl ⟨first, marked.start.1⟩)
      constructor
      case malformed => simp [Except.map, unmarked]
      case returns => exact fun _ => ⟨_, rfl⟩
      case unmarked => exact fun _ => rfl
      case marked => exact fun hasMarker _ => absurd hasMarker unmarked
      case present => exact fun _ _ _ marked => (absurdly _ _ _ marked).elim
      case neptune => exact fun _ _ _ _ _ marked => (absurdly _ _ _ marked).elim
      case fallback => exact fun _ _ _ _ marked => (absurdly _ _ _ marked).elim
  | malformed occurs unpaired =>
      have absurdly : ∀ first last cut, Marked data first last cut → False :=
        fun first last _ marked => unpaired ⟨first, last, marked.start.1, marked.stop.1.2,
          marked.stop.1.1⟩
      constructor
      case malformed => exact ⟨fun _ => ⟨occurs, unpaired⟩, fun _ => rfl⟩
      case returns => exact fun other => absurd rfl other
      case unmarked => exact fun unmarked => absurd occurs unmarked
      case marked => exact fun _ other => absurd rfl other
      case present => exact fun _ _ _ marked => (absurdly _ _ _ marked).elim
      case neptune => exact fun _ _ _ _ _ marked => (absurdly _ _ _ marked).elim
      case fallback => exact fun _ _ _ _ marked => (absurdly _ _ _ marked).elim
  | marked first last cut paired marked recognizes =>
      exact btVersionSpec_marked paired marked recognizes previous

/-- On every array that `read_bt_version` reads, `bt_version` accesses nothing outside the
array and returns what its markers determine, whatever `version` held before. -/
theorem bt_version_extraction (data : List UInt8) (lower : 32 ≤ data.length)
    (upper : data.length ≤ 1048576) (previous : Buffer wmtBtVersionSize) :
    ∃ result, btVersionAt data previous = some result ∧ BtVersionSpec data result := by
  refine ⟨_, btVersionAt_eq (by omega) (by omega) previous, btText_spec data previous⟩

/-- A version between its markers, with a line behind it. -/
def debugFile : List UInt8 :=
  ascii "20210315 rev 7\n" ++ startMarker ++ ascii "x = debug" ++ endMarker

theorem bt_version_extraction_debugFile :
    ∃ version : Buffer wmtBtVersionSize,
      btVersionAt debugFile (.zero _) = some (.ok (some version)) ∧
      BtVersionSpec debugFile (.ok (some version)) ∧
      version.cString = ascii "20210315 rev 7" := by
  obtain ⟨result, computed, spec⟩ :=
    bt_version_extraction debugFile (by decide) (by decide) (.zero _)
  have same : some result = some (.ok (some (copyVersion (debugFile.take 14)))) :=
    computed.symm.trans (by decide)
  obtain rfl := Option.some.inj same
  exact ⟨_, computed, spec, by decide⟩

end K50sv1.WmtLauncher.Firmware
