namespace Handoff.Ring

/-! Positions in the stream of elements that pass through a ring.  A cursor counts
up forever in the low 63 bits of a word, and starts again at zero after that.
The top bit of the word is not part of the position: on the receive cursor it
marks that the receiver is moving the element there out of the ring.
-/

structure Cursor where
  word : UInt64
deriving DecidableEq

namespace Cursor

def claimBit : UInt64 := 0x8000000000000000

def positionMask : UInt64 := ~~~claimBit

/-- The number of positions, after which they start again at zero. -/
def period : Nat := 0x8000000000000000

def start : Cursor := ⟨0⟩

def toNat (cursor : Cursor) : Nat := cursor.word.toNat

/-- The next position. -/
def advance (cursor : Cursor) : Cursor :=
  ⟨(cursor.word + 1) &&& positionMask⟩

def advanceBy (cursor : Cursor) (steps : Nat) : Cursor :=
  ⟨(cursor.word + UInt64.ofNat steps) &&& positionMask⟩

/-- How many steps lead from the first position to the second.  If the second
lies a little behind the first, the count is not far from `period`. -/
def distanceTo (first second : Cursor) : UInt64 :=
  (second.word - first.word) &&& positionMask

def isClaimed (cursor : Cursor) : Bool :=
  cursor.word &&& claimBit != 0

def claim (cursor : Cursor) : Cursor :=
  ⟨cursor.word ||| claimBit⟩

/-- The position alone, whether it is claimed or not. -/
def position (cursor : Cursor) : Cursor :=
  ⟨cursor.word &&& positionMask⟩

/-- The slot for a position in a ring whose size is one more than the mask. -/
def slot (mask : UInt64) (cursor : Cursor) : Nat :=
  (cursor.word &&& mask).toNat

@[ext] theorem ext_toNat {first second : Cursor} (same : first.toNat = second.toNat) :
    first = second := by
  cases first; cases second
  exact congrArg Cursor.mk (UInt64.toNat_inj.mp same)

theorem toNat_start : start.toNat = 0 := rfl

theorem toNat_and_positionMask (word : UInt64) :
    (word &&& positionMask).toNat = word.toNat % period := by
  have mask : positionMask.toNat = 2 ^ 63 - 1 := by decide
  rw [UInt64.toNat_and, mask, Nat.and_two_pow_sub_one_eq_mod]
  rfl

theorem toNat_position (cursor : Cursor) : cursor.position.toNat = cursor.toNat % period :=
  toNat_and_positionMask cursor.word

theorem position_of_lt {cursor : Cursor} (below : cursor.toNat < period) :
    cursor.position = cursor :=
  ext_toNat (by rw [toNat_position, Nat.mod_eq_of_lt below])

theorem toNat_advance (cursor : Cursor) : cursor.advance.toNat = (cursor.toNat + 1) % period := by
  unfold advance toNat
  rw [toNat_and_positionMask, UInt64.toNat_add, UInt64.toNat_one]
  unfold period
  omega

theorem toNat_advanceBy (cursor : Cursor) (steps : Nat) :
    (cursor.advanceBy steps).toNat = (cursor.toNat + steps) % period := by
  unfold advanceBy toNat
  rw [toNat_and_positionMask, UInt64.toNat_add, UInt64.toNat_ofNat']
  unfold period
  omega

theorem toNat_distanceTo {first second : Cursor}
    (firstBelow : first.toNat < period) (secondBelow : second.toNat < period) :
    (first.distanceTo second).toNat =
      if first.toNat ≤ second.toNat then second.toNat - first.toNat
      else period - (first.toNat - second.toNat) := by
  unfold distanceTo
  rw [toNat_and_positionMask, UInt64.toNat_sub]
  unfold toNat period at *
  split <;> omega

/-- In a ring whose size is a power of two, masking is taking the remainder. -/
theorem slot_eq_mod {mask : UInt64} {bits : Nat} (shape : mask.toNat + 1 = 1 <<< bits)
    (cursor : Cursor) : cursor.slot mask = cursor.toNat % (mask.toNat + 1) := by
  have size : mask.toNat + 1 = 2 ^ bits := by simpa [Nat.shiftLeft_eq] using shape
  have ones : mask.toNat = 2 ^ bits - 1 := by omega
  unfold slot toNat
  rw [UInt64.toNat_and, size, ones, Nat.and_two_pow_sub_one_eq_mod]

theorem isClaimed_eq_false {cursor : Cursor} (below : cursor.toNat < period) :
    cursor.isClaimed = false := by
  have small : cursor.word.toNat < 2 ^ 63 := below
  have clear : cursor.word &&& claimBit = 0 := by
    apply UInt64.toNat_inj.mp
    have bit : claimBit.toNat = 2 ^ 63 := by decide
    rw [UInt64.toNat_and, bit]
    apply Nat.eq_of_testBit_eq
    intro place
    rw [Nat.testBit_and, Nat.testBit_two_pow]
    by_cases top : 63 = place
    · subst top
      simp [Nat.testBit_lt_two_pow small]
    · simp [top]
  simp [isClaimed, clear]

end Cursor

end Handoff.Ring
