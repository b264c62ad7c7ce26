namespace Handoff.Ring

/-! How large a ring is made.  A ring keeps one slot free, and its slots are found
by masking, so its size is the least power of two that is not below the capacity
asked for, and never below two.
-/

def leastPowerOfTwo (bound : Nat) : Nat :=
  if bound ≤ 1 then 1 else 1 <<< ((bound - 1).log2 + 1)

theorem le_leastPowerOfTwo (bound : Nat) : bound ≤ leastPowerOfTwo bound := by
  unfold leastPowerOfTwo
  split
  · assumption
  · have above := @Nat.lt_log2_self (bound - 1)
    rw [Nat.one_shiftLeft]
    omega

theorem leastPowerOfTwo_le {bound exponent : Nat} (covers : bound ≤ 1 <<< exponent) :
    leastPowerOfTwo bound ≤ 1 <<< exponent := by
  rw [Nat.one_shiftLeft] at *
  unfold leastPowerOfTwo
  rw [Nat.one_shiftLeft]
  split
  · exact Nat.one_le_two_pow
  · apply Nat.pow_le_pow_right (by decide)
    have nonzero : bound - 1 ≠ 0 := by omega
    exact (Nat.log2_lt nonzero).mpr (by omega)

/-- Why a ring cannot be made: no cursor could address its slots, or there cannot be
memory for them. -/
inductive CreationError where
  | tooLarge (requested : Nat)
  | outOfMemory
deriving DecidableEq

def CreationError.message : CreationError → String
  | .tooLarge requested =>
      "spsc capacity overflow: " ++ String.ofList (Nat.toDigits 10 requested)
  | .outOfMemory => "capacity overflow"

/-- The largest ring in which a cursor can be told from one that lags behind. -/
def largestRing : Nat := 1 <<< 62

/-- The most bytes that can be allocated at once. -/
def largestAllocation : Nat := (1 <<< 63) - 1

/-- What a slot takes up if its element is held by reference. -/
def referenceBytes : Nat := 8

/-- The size of a ring for a capacity, if cursors can address such a ring. -/
def ringSize? (capacity : Nat) : Option Nat :=
  let size := leastPowerOfTwo (max capacity 2)
  if size ≤ largestRing then some size else none

theorem ringSize?_eq_none_iff (capacity : Nat) :
    ringSize? capacity = none ↔ largestRing < capacity := by
  unfold ringSize? largestRing
  dsimp only
  split
  · next fits =>
      have covers := le_leastPowerOfTwo (max capacity 2)
      simp only [reduceCtorEq, false_iff]
      omega
  · next exceeds =>
      simp only [true_iff]
      apply Nat.lt_of_not_le
      intro small
      exact exceeds (leastPowerOfTwo_le (by omega))

end Handoff.Ring
