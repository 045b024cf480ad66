import Mathlib.Data.List.Basic
import Mathlib.Data.Nat.ModEq

/-!
# Circular scans

A circular scan visits every position of a ring of fixed size once, starting at
a cursor and wrapping around, and stops at the first position that satisfies a
predicate.  Its callers rely on three facts, wherever the cursor stood: a hit
satisfies the predicate, a miss excludes every position, and a cursor that is moved
past the hit has come nearer to every other candidate.
-/

namespace K50sv1.Ring

variable {count : Nat} [NeZero count]

/-- The positions visited from offset `first` of the cursor `start`. -/
def positions (count : Nat) [NeZero count] (start first : Nat) : List (Fin count) :=
  (List.range' first count).map fun offset => Fin.ofNat count (start + offset)

/-- The first visited position that satisfies `p`. -/
def scan (start first : Nat) (p : Fin count → Bool) : Option (Fin count) :=
  (positions count start first).find? p

/-! ## Distances along the ring -/

/-- How many positions lie between the cursor and `index`, going forward. -/
def distance (start : Nat) (index : Fin count) : Nat :=
  (index.val + (count - start % count)) % count

theorem distance_lt (start : Nat) (index : Fin count) : distance start index < count :=
  Nat.mod_lt _ (Nat.pos_of_ne_zero (NeZero.ne count))

omit [NeZero count] in
theorem distance_mod (start : Nat) (index : Fin count) :
    distance (start % count) index = distance start index := by
  rw [distance, Nat.mod_mod, distance]

/-- Going forward by the distance leads to `index`. -/
theorem ofNat_add_distance (start : Nat) (index : Fin count) :
    Fin.ofNat count (start + distance start index) = index := by
  have positive : 0 < count := Nat.pos_of_ne_zero (NeZero.ne count)
  have originLt : start % count < count := Nat.mod_lt _ positive
  apply Fin.ext
  simp only [Fin.val_ofNat, distance]
  calc
    (start + (index.val + (count - start % count)) % count) % count
        = (start % count + (index.val + (count - start % count))) % count := by
          rw [Nat.add_mod_mod, ← Nat.mod_add_mod]
    _ = (index.val + count) % count := by congr 1; omega
    _ = index.val := by rw [Nat.add_mod_right, Nat.mod_eq_of_lt index.isLt]

/-- Less than a full turn forward is the distance. -/
theorem distance_ofNat_add (start : Nat) {offset : Nat} (bound : offset < count) :
    distance start (Fin.ofNat count (start + offset)) = offset := by
  have same := ofNat_add_distance start (Fin.ofNat count (start + offset))
  have congruent : start + distance start (Fin.ofNat count (start + offset)) ≡
      start + offset [MOD count] := by
    simpa [Fin.ext_iff, Nat.ModEq] using same
  exact Nat.ModEq.eq_of_lt_of_lt (Nat.ModEq.add_left_cancel' start congruent)
    (distance_lt _ _) bound

/-! ## Scans -/

/-- A full turn visits every position. -/
theorem mem_positions (start first : Nat) (index : Fin count) :
    index ∈ positions count start first := by
  refine List.mem_map.mpr ⟨first + distance (start + first) index, ?_, ?_⟩
  · rw [List.mem_range'_1]
    exact ⟨Nat.le_add_right _ _, Nat.add_lt_add_left (distance_lt _ _) _⟩
  · rw [← Nat.add_assoc]
    exact ofNat_add_distance (start + first) index

theorem scan_spec {start first : Nat} {p : Fin count → Bool} {index : Fin count}
    (hit : scan start first p = some index) : p index = true :=
  List.find?_some hit

/-- Nothing between the cursor and the hit satisfies the predicate. -/
theorem scan_distance_le {start : Nat} {p : Fin count → Bool} {hit index : Fin count}
    (found : scan start 0 p = some hit) (satisfies : p index = true) :
    distance start hit ≤ distance start index := by
  obtain ⟨-, before, after, split, earlier⟩ := List.find?_eq_some_iff_append.mp found
  -- the position at offset `before.length` is the hit
  have length : before.length < count := by
    have total := congrArg List.length split
    simp only [positions, List.length_map, List.length_range', List.length_append,
      List.length_cons] at total
    omega
  have hitEq : hit = Fin.ofNat count (start + before.length) := by
    have at_hit := congrArg (·[before.length]?) split
    simpa [positions, length] using at_hit.symm
  rw [hitEq, distance_ofNat_add start length]
  by_contra nearer
  have nearer : distance start index < before.length := Nat.lt_of_not_le nearer
  have member : index ∈ before := by
    have at_index := congrArg (·[distance start index]?) split
    simp only [positions, List.getElem?_map,
      List.getElem?_append_left nearer] at at_index
    rw [List.getElem?_range' (distance_lt start index)] at at_index
    apply List.mem_of_getElem? (i := distance start index)
    rw [← at_index, Option.map_some, Nat.zero_add, Nat.one_mul, ofNat_add_distance]
  simpa [satisfies] using earlier index member

/-- Past a hit the cursor is nearer to every other position that satisfies the
predicate. -/
theorem distance_after_scan {start : Nat} {p : Fin count → Bool} {hit index : Fin count}
    (found : scan start 0 p = some hit) (satisfies : p index = true) (other : hit ≠ index) :
    distance (hit.val + 1) index < distance start index := by
  have within := scan_distance_le found satisfies
  have apart : distance start hit ≠ distance start index := by
    intro same
    apply other
    rw [← ofNat_add_distance start hit, same, ofNat_add_distance]
  have bound := distance_lt start index
  -- the rest of the way, seen from the position after the hit
  let rest := distance start index - distance start hit - 1
  have restLt : rest < count := by omega
  have target : Fin.ofNat count (hit.val + 1 + rest) = index := by
    have hitVal : hit.val = (start + distance start hit) % count := by
      conv_lhs => rw [← ofNat_add_distance start hit, Fin.val_ofNat]
    have total : start + distance start hit + 1 + rest = start + distance start index := by
      omega
    rw [← ofNat_add_distance start index, ← total]
    apply Fin.ext
    simp only [Fin.val_ofNat]
    rw [hitVal, Nat.add_assoc, Nat.add_assoc (start + distance start hit), Nat.mod_add_mod]
  have reached := distance_ofNat_add (hit.val + 1) restLt
  rw [target] at reached
  omega

theorem scan_eq_none_iff {start first : Nat} {p : Fin count → Bool} :
    scan start first p = none ↔ ∀ index, p index = false := by
  rw [scan, List.find?_eq_none]
  constructor
  · intro miss index
    simpa using miss index (mem_positions start first index)
  · intro allFalse index _
    simp [allFalse index]

end K50sv1.Ring
