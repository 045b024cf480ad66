import Mathlib.Data.Multiset.Count
import Mathlib.Data.Multiset.Replicate

/-!
# A reference count with resets

A pool counts the references that are out.  From time to time it is reset: the count
goes to zero although the holders are still there, and what they return later has no
reference of theirs to give back.  Each holder is known by its stamp, the number of
resets before it took its reference, so the holders that still own one are those
stamped with the present number.
-/

namespace K50sv1.Data

structure RefPool where
  count : Nat
  resets : Nat
  /-- The stamps of all holders, also of those a reset has deprived. -/
  holders : Multiset Nat

namespace RefPool

variable {pool after : RefPool}

/-- The count is the number of references taken since the last reset and not given
back. -/
structure Exact (pool : RefPool) : Prop where
  counted : pool.count = pool.holders.count pool.resets
  past : ∀ stamp ∈ pool.holders, stamp ≤ pool.resets

/-- What may happen to a pool.  The subtraction of `giveBack` saturates, and it is fair
if it takes from the count what its holders own. -/
inductive Moves (pool : RefPool) : RefPool → Prop where
  | take (n : Nat) :
      Moves pool { pool with
        count := pool.count + n
        holders := Multiset.replicate n pool.resets + pool.holders }
  | giveBack (leaving rest : Multiset Nat) (n : Nat) (split : pool.holders = leaving + rest)
      (fair : min pool.count n = leaving.count pool.resets) :
      Moves pool { pool with count := pool.count - n, holders := rest }
  | reset : Moves pool { pool with count := 0, resets := pool.resets + 1 }

/-- A subtraction keeps the count exact just when it is fair. -/
theorem Exact.giveBack_iff (exact : pool.Exact) {leaving rest : Multiset Nat}
    (split : pool.holders = leaving + rest) (n : Nat) :
    pool.count - n = rest.count pool.resets ↔
      min pool.count n = leaving.count pool.resets := by
  have counted : pool.count = leaving.count pool.resets + rest.count pool.resets := by
    rw [exact.counted, split, Multiset.count_add]
  omega

theorem Exact.moves (exact : pool.Exact) (moves : Moves pool after) : after.Exact := by
  cases moves with
  | take n =>
      constructor
      · dsimp only
        rw [Multiset.count_add, Multiset.count_replicate_self, ← exact.counted, Nat.add_comm]
      · intro stamp member
        rcases Multiset.mem_add.mp member with new | old
        · exact Nat.le_of_eq (Multiset.eq_of_mem_replicate new)
        · exact exact.past stamp old
  | giveBack leaving rest n split fair =>
      constructor
      · exact (exact.giveBack_iff split n).mpr fair
      · intro stamp member
        apply exact.past
        rw [split]
        exact Multiset.mem_add.mpr (.inr member)
  | reset =>
      constructor
      · -- The new number has not been given to anyone yet.
        symm
        apply Multiset.count_eq_zero.mpr
        intro member
        exact absurd (exact.past _ member) (Nat.not_succ_le_self pool.resets)
      · intro stamp member
        exact Nat.le_succ_of_le (exact.past stamp member)

theorem Moves.resets_le (moves : Moves pool after) : pool.resets ≤ after.resets := by
  cases moves with
  | take n => exact Nat.le_refl _
  | giveBack leaving rest n split fair => exact Nat.le_refl _
  | reset => exact Nat.le_succ _

/-- Holders that own nothing can leave without a subtraction. -/
theorem Moves.leave (leaving rest : Multiset Nat) (split : pool.holders = leaving + rest)
    (deprived : leaving.count pool.resets = 0) : Moves pool { pool with holders := rest } :=
  .giveBack leaving rest 0 split (by simp [deprived])

/-- Nothing need happen. -/
theorem Moves.refl : Moves pool pool :=
  .leave 0 pool.holders (by simp) (by simp)

/-- No holder owns a reference while the count is zero. -/
theorem Exact.deprived (exact : pool.Exact) (zero : pool.count = 0) {leaving rest : Multiset Nat}
    (split : pool.holders = leaving + rest) : leaving.count pool.resets = 0 := by
  have counted := exact.counted
  rw [zero, split, Multiset.count_add] at counted
  exact (Nat.add_eq_zero_iff.mp counted.symm).1

end RefPool

end K50sv1.Data
