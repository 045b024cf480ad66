import Mathlib.Data.List.Pairwise
import Mathlib.Tactic.SplitIfs

/-!
# Ordered maps

A finite map kept as the list of its entries in increasing order of the keys, which
is also the order in which a loop visits them.  The order is given by an integer rank
of the keys.  An entry is never overwritten: inserting a key that is present leaves
the map as it is.
-/

namespace K50sv1.Data

universe u v

/-- The entries of a map in increasing order of the ranks of their keys. -/
structure OrderedMap (κ : Type u) (ν : Type v) (rank : κ → Int) where
  entries : List (κ × ν)
  ordered : entries.Pairwise fun first second => rank first.1 < rank second.1

namespace OrderedMap

variable {κ : Type u} {ν : Type v} {rank : κ → Int}

def empty : OrderedMap κ ν rank where
  entries := []
  ordered := List.Pairwise.nil

def find? [DecidableEq κ] (map : OrderedMap κ ν rank) (key : κ) : Option ν :=
  map.entries.lookup key

def contains [DecidableEq κ] (map : OrderedMap κ ν rank) (key : κ) : Bool :=
  (map.find? key).isSome

/-! ## Insertion -/

/-- Insert an entry at the place of its key unless the place is taken. -/
def emplaceEntry (rank : κ → Int) (key : κ) (value : ν) : List (κ × ν) → List (κ × ν)
  | [] => [(key, value)]
  | entry :: rest =>
      if rank key < rank entry.1 then
        (key, value) :: entry :: rest
      else if rank key = rank entry.1 then
        entry :: rest
      else
        entry :: emplaceEntry rank key value rest

theorem mem_emplaceEntry {key : κ} {value : ν} {entry : κ × ν} {entries : List (κ × ν)}
    (member : entry ∈ emplaceEntry rank key value entries) :
    entry = (key, value) ∨ entry ∈ entries := by
  induction entries with
  | nil => exact .inl (List.mem_singleton.mp member)
  | cons first rest ih =>
      rw [emplaceEntry] at member
      split at member
      · exact List.mem_cons.mp member
      · split at member
        · exact .inr member
        · rcases List.mem_cons.mp member with rfl | later
          · exact .inr List.mem_cons_self
          · exact (ih later).imp_right (List.mem_cons_of_mem first)

theorem ordered_emplaceEntry (key : κ) (value : ν) {entries : List (κ × ν)}
    (ordered : entries.Pairwise fun first second => rank first.1 < rank second.1) :
    (emplaceEntry rank key value entries).Pairwise fun first second =>
      rank first.1 < rank second.1 := by
  induction entries with
  | nil => exact List.pairwise_singleton _ _
  | cons first rest ih =>
      obtain ⟨lower, restOrdered⟩ := List.pairwise_cons.mp ordered
      rw [emplaceEntry]
      split
      · rename_i smaller
        apply List.Pairwise.cons _ ordered
        intro entry member
        rcases List.mem_cons.mp member with rfl | later
        · exact smaller
        · exact Int.lt_trans smaller (lower entry later)
      · split
        · exact ordered
        · rename_i notSmaller different
          apply List.Pairwise.cons _ (ih restOrdered)
          intro entry member
          rcases mem_emplaceEntry member with rfl | later
          · exact Int.lt_iff_le_and_ne.mpr ⟨Int.not_lt.mp notSmaller, Ne.symm different⟩
          · exact lower entry later

def emplace (map : OrderedMap κ ν rank) (key : κ) (value : ν) : OrderedMap κ ν rank where
  entries := emplaceEntry rank key value map.entries
  ordered := ordered_emplaceEntry key value map.ordered

/-! ## Removal -/

/-- Keep the entries whose key passes a test. -/
def retain (map : OrderedMap κ ν rank) (keep : κ → Bool) : OrderedMap κ ν rank where
  entries := map.entries.filter fun entry => keep entry.1
  ordered := map.ordered.filter _

def erase [DecidableEq κ] (map : OrderedMap κ ν rank) (key : κ) : OrderedMap κ ν rank :=
  map.retain fun other => other ≠ key

/-! ## Entries -/

theorem mem_of_find? [DecidableEq κ] {map : OrderedMap κ ν rank} {key : κ} {value : ν}
    (found : map.find? key = some value) : (key, value) ∈ map.entries := by
  obtain ⟨before, after, split, -⟩ := List.lookup_eq_some_iff.mp found
  rw [split]
  exact List.mem_append_right before List.mem_cons_self

theorem mem_emplace {map : OrderedMap κ ν rank} {key : κ} {value : ν} {entry : κ × ν}
    (member : entry ∈ (map.emplace key value).entries) :
    entry = (key, value) ∨ entry ∈ map.entries :=
  mem_emplaceEntry member

theorem mem_retain {map : OrderedMap κ ν rank} {keep : κ → Bool} {entry : κ × ν} :
    entry ∈ (map.retain keep).entries ↔ entry ∈ map.entries ∧ keep entry.1 = true :=
  List.mem_filter

/-! ## Lookup -/

section Lookup

variable [DecidableEq κ]

theorem lookup_entry (key : κ) (entry : κ × ν) (rest : List (κ × ν)) :
    (entry :: rest).lookup key = if key = entry.1 then some entry.2 else rest.lookup key := by
  rw [List.lookup_cons]
  by_cases same : key = entry.1
  · rw [if_pos same, beq_iff_eq.mpr same]
  · rw [if_neg same, beq_eq_false_iff_ne.mpr same]

theorem lookup_filter (keep : κ → Bool) (key : κ) (entries : List (κ × ν)) :
    (entries.filter fun entry => keep entry.1).lookup key =
      if keep key then entries.lookup key else none := by
  induction entries with
  | nil => simp
  | cons first rest ih =>
      rw [List.filter_cons]
      by_cases same : key = first.1
      · subst same
        split_ifs with kept
        · rw [lookup_entry, lookup_entry, if_pos rfl, if_pos rfl]
        · rw [ih, if_neg kept]
      · rw [lookup_entry, if_neg same, ← ih]
        split_ifs with kept
        · rw [lookup_entry, if_neg same]
        · rfl

theorem lookup_eq_none_of_lt {key : κ} {entries : List (κ × ν)}
    (lower : ∀ entry ∈ entries, rank key < rank entry.1) : entries.lookup key = none := by
  rw [List.lookup_eq_none_iff]
  intro entry member
  rw [bne_iff_ne]
  rintro rfl
  exact Int.lt_irrefl _ (lower entry member)

theorem lookup_emplaceEntry (injective : Function.Injective rank) (key other : κ) (value : ν)
    {entries : List (κ × ν)}
    (ordered : entries.Pairwise fun first second => rank first.1 < rank second.1) :
    (emplaceEntry rank key value entries).lookup other =
      if other = key then some ((entries.lookup key).getD value) else entries.lookup other := by
  induction entries with
  | nil => simp [emplaceEntry, lookup_entry]
  | cons first rest ih =>
      obtain ⟨lower, restOrdered⟩ := List.pairwise_cons.mp ordered
      rw [emplaceEntry]
      split
      · next smaller =>
        have absent : (first :: rest).lookup key = none := by
          apply lookup_eq_none_of_lt
          intro entry member
          rcases List.mem_cons.mp member with rfl | later
          · exact smaller
          · exact Int.lt_trans smaller (lower entry later)
        rw [lookup_entry, absent, Option.getD_none]
      · split
        · next equal =>
          obtain rfl := injective equal
          split_ifs with same
          · rw [same, lookup_entry, if_pos rfl, Option.getD_some]
          · rfl
        · next different =>
          have apart : key ≠ first.1 := fun same => different (congrArg rank same)
          rw [lookup_entry, ih restOrdered, lookup_entry key, if_neg apart,
            lookup_entry other first]
          by_cases same : other = key
          · rw [if_pos same, if_pos same, same, if_neg apart]
          · rw [if_neg same, if_neg same]

/-- Inserting a key that is present changes nothing. -/
theorem find?_emplace (injective : Function.Injective rank) (map : OrderedMap κ ν rank)
    (key other : κ) (value : ν) :
    (map.emplace key value).find? other =
      if other = key then some ((map.find? key).getD value) else map.find? other :=
  lookup_emplaceEntry injective key other value map.ordered

theorem find?_retain (map : OrderedMap κ ν rank) (keep : κ → Bool) (key : κ) :
    (map.retain keep).find? key = if keep key then map.find? key else none :=
  lookup_filter keep key map.entries

theorem contains_emplace (injective : Function.Injective rank) (map : OrderedMap κ ν rank)
    (key other : κ) (value : ν) :
    (map.emplace key value).contains other = (decide (other = key) || map.contains other) := by
  rw [contains, find?_emplace injective]
  by_cases same : other = key
  · simp [same]
  · simp [same, contains]

theorem contains_retain (map : OrderedMap κ ν rank) (keep : κ → Bool) (key : κ) :
    (map.retain keep).contains key = (keep key && map.contains key) := by
  rw [contains, find?_retain]
  cases keep key with
  | true => rfl
  | false => rfl

theorem contains_erase (map : OrderedMap κ ν rank) (key other : κ) :
    (map.erase key).contains other = (decide (other ≠ key) && map.contains other) :=
  contains_retain map _ other

/-- The entries are the keys that can be found. -/
theorem contains_iff_mem {map : OrderedMap κ ν rank} {key : κ} :
    map.contains key = true ↔ ∃ value, (key, value) ∈ map.entries := by
  rw [contains, Option.isSome_iff_exists]
  constructor
  · rintro ⟨value, found⟩
    exact ⟨value, mem_of_find? found⟩
  · rintro ⟨value, member⟩
    cases found : map.find? key with
    | some value => exact ⟨value, rfl⟩
    | none =>
        have absent := List.lookup_eq_none_iff.mp found (key, value) member
        simp at absent

end Lookup

end OrderedMap

end K50sv1.Data
