import K50sv1.Data.Bytes
import K50sv1.Data.Search
import K50sv1.WmtLauncher.Core

/-!
# The version text of a Bluetooth patch

A Bluetooth patch may carry a version between two markers.  `bt_version` looks for the
markers among arbitrary bytes, recognizes a text between them up to the first zero byte,
and copies at most 91 bytes of it, of which it keeps the first line.
-/

namespace K50sv1.WmtLauncher.Firmware

open K50sv1.Data
open K50sv1.Data.Bytes

def wmtBtVersionSize : Nat := 92

def startMarker : List UInt8 :=
  ascii "BABEFACEBABEFACE"

def endMarker : List UInt8 :=
  ascii "DEADBEEFDEADBEEF"

/-- `find_bytes`, with a position in place of a pointer.  The loop of the source stops
where the text no longer fits; no comparison behind that place can succeed. -/
def findBytes (data text : List UInt8) : Option Nat :=
  Search.find text data

/-- The first LF of the C string in a buffer becomes its terminator. -/
def cutLine {size : Nat} (version : Buffer size) : Buffer size :=
  let line := version.cString.takeWhile (· ≠ 0x0a)
  if line.length < version.cString.length then
    { bytes := version.bytes.set line.length 0
      length_eq := by rw [List.length_set, version.length_eq] }
  else
    version

/-- The copy at the end of `bt_version` into a zeroed buffer. -/
def copyVersion (text : List UInt8) : Buffer wmtBtVersionSize :=
  cutLine (.fill wmtBtVersionSize (text.take (wmtBtVersionSize - 1)))

/-- `.ok none` stands for `*present == false`. -/
def btVersion (data : List UInt8) : Except Errno (Option (Buffer wmtBtVersionSize)) :=
  match findBytes data startMarker with
  | none => if (findBytes data endMarker).isSome then .error .ebadmsg else .ok none
  | some start =>
      let behind := start + startMarker.length
      match findBytes (data.drop behind) endMarker with
      | none => .error .ebadmsg
      | some distance =>
          let stop := behind + distance
          let recognized := ((data.drop start).take (stop - start)).takeWhile (· ≠ 0)
          match findBytes recognized (ascii "t-neptune") with
          | some offset =>
              .ok (some (copyVersion ((data.drop (start + offset)).take (stop - (start + offset)))))
          | none =>
              if (findBytes recognized (ascii "= debug")).isSome then
                .ok (some (copyVersion (data.take 14)))
              else
                .ok none

/-- Either there are no markers, or some end marker follows a start marker. -/
def MarkersWellFormed (data : List UInt8) : Prop :=
  (∃ middle, startMarker ++ middle ++ endMarker <:+: data) ∨
    (¬startMarker <:+: data ∧ ¬endMarker <:+: data)

/-- An end marker behind any start marker is behind the first one. -/
theorem marked_iff {data : List UInt8} {start : Nat}
    (found : findBytes data startMarker = some start) :
    (∃ middle, startMarker ++ middle ++ endMarker <:+: data) ↔
      endMarker <:+: data.drop (start + startMarker.length) := by
  constructor
  · rintro ⟨middle, before, after, rfl⟩
    have regrouped : before ++ (startMarker ++ middle ++ endMarker) ++ after =
        before ++ (startMarker ++ (middle ++ (endMarker ++ after))) := by
      simp only [List.append_assoc]
    rw [regrouped] at found ⊢
    have first : start ≤ before.length := Search.find_le found
    -- the bytes behind this end marker are also behind the first start marker
    have behind : (before ++ (startMarker ++ (middle ++ (endMarker ++ after)))).drop
        (before.length + startMarker.length) = middle ++ (endMarker ++ after) := by
      rw [← List.append_assoc, List.drop_left' List.length_append]
    have later := List.drop_suffix (before.length - start)
      ((before ++ (startMarker ++ (middle ++ (endMarker ++ after)))).drop
        (start + startMarker.length))
    have position : start + startMarker.length + (before.length - start) =
        before.length + startMarker.length := by
      omega
    rw [List.drop_drop, position, behind] at later
    exact List.IsInfix.trans ⟨middle, after, List.append_assoc _ _ _⟩ later.isInfix
  · rintro ⟨middle, after, same⟩
    obtain ⟨split, -⟩ := Search.find_split found
    refine ⟨middle, data.take start, after, ?_⟩
    calc
      data.take start ++ (startMarker ++ middle ++ endMarker) ++ after =
          data.take start ++ startMarker ++ (middle ++ endMarker ++ after) := by
        simp only [List.append_assoc]
      _ = data.take start ++ startMarker ++ data.drop (start + startMarker.length) := by rw [same]
      _ = data := split.symm

/-- Only malformed markers make `bt_version` fail. -/
theorem btVersion_isOk_iff (data : List UInt8) :
    (∃ version, btVersion data = .ok version) ↔ MarkersWellFormed data := by
  rw [btVersion, MarkersWellFormed]
  cases found : findBytes data startMarker with
  | none =>
      have absent : ¬startMarker <:+: data := Search.find_eq_none_iff.mp found
      have unmarked : ¬∃ middle, startMarker ++ middle ++ endMarker <:+: data := by
        rintro ⟨middle, marked⟩
        apply absent
        apply List.IsInfix.trans _ marked
        exact ⟨[], middle ++ endMarker, List.append_assoc _ _ _ |>.symm⟩
      have other : (findBytes data endMarker).isSome = true ↔ endMarker <:+: data :=
        Search.find_isSome_iff
      simp only [unmarked, absent, other, false_or, not_false_iff, true_and]
      split_ifs with present
      · simp [present]
      · simp [present]
  | some start =>
      have present : startMarker <:+: data :=
        Search.find_isSome_iff.mp (by rw [← findBytes, found]; rfl)
      simp only [present, not_true, false_and, or_false, marked_iff found]
      cases distant : findBytes (data.drop (start + startMarker.length)) endMarker with
      | none =>
          have missing := Search.find_eq_none_iff.mp distant
          simp [missing]
      | some distance =>
          have follows : endMarker <:+: data.drop (start + startMarker.length) :=
            Search.find_isSome_iff.mp (by rw [← findBytes, distant]; rfl)
          simp only [follows, iff_true]
          split
          · exact ⟨_, rfl⟩
          · split_ifs
            · exact ⟨_, rfl⟩
            · exact ⟨_, rfl⟩

end K50sv1.WmtLauncher.Firmware
