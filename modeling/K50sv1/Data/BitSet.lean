import Mathlib.Data.Nat.Bitwise

/-!
# Bit masks as finite sets

A mask has element `i` when its bit `i` is set.  Inserting an element and asking for
one are the mask operations of C; a mask that holds exactly the numbers below `n` is
`2 ^ n - 1`.
-/

namespace K50sv1.Data.BitSet

/-- The mask with a further element. -/
def insert (mask element : Nat) : Nat :=
  mask ||| 1 <<< element

/-- Whether the mask has an element. -/
def has (mask element : Nat) : Bool :=
  mask &&& 1 <<< element ≠ 0

@[simp]
theorem has_eq_testBit (mask element : Nat) : has mask element = mask.testBit element := by
  rw [has, Nat.one_shiftLeft, Nat.and_two_pow]
  cases mask.testBit element <;> simp

@[simp]
theorem testBit_insert (mask element other : Nat) :
    (insert mask element).testBit other = (mask.testBit other || decide (element = other)) := by
  rw [insert, Nat.testBit_or, Nat.one_shiftLeft, Nat.testBit_two_pow]

/-- A mask of the marks of a list, when the list grows by an item with one mark. -/
theorem testBit_insert_concat {α : Type*} {Marks : α → Nat → Prop} {items : List α} {mask : Nat}
    (shown : ∀ element, mask.testBit element = true ↔ ∃ item ∈ items, Marks item element)
    {last : α} {mark : Nat} (marks : ∀ element, mark = element ↔ Marks last element)
    (element : Nat) :
    (insert mask mark).testBit element = true ↔
      ∃ item ∈ items ++ [last], Marks item element := by
  rw [testBit_insert, Bool.or_eq_true, shown, decide_eq_true_eq, marks]
  constructor
  · rintro (⟨item, member, marked⟩ | marked)
    · exact ⟨item, List.mem_append_left _ member, marked⟩
    · exact ⟨last, List.mem_concat_self, marked⟩
  · rintro ⟨item, member, marked⟩
    rcases List.mem_append.mp member with earlier | new
    · exact .inl ⟨item, earlier, marked⟩
    · exact .inr (List.mem_singleton.mp new ▸ marked)

/-- The mask of all numbers below `bound`. -/
theorem eq_full_iff (mask bound : Nat) :
    mask = (1 <<< bound) - 1 ↔ ∀ element, mask.testBit element = decide (element < bound) := by
  rw [Nat.one_shiftLeft]
  constructor
  · rintro rfl element
    exact Nat.testBit_two_pow_sub_one bound element
  · intro elements
    apply Nat.eq_of_testBit_eq
    intro element
    rw [elements, Nat.testBit_two_pow_sub_one]

end K50sv1.Data.BitSet
