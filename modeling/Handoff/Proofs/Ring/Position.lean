import Handoff.Ring.Memory
import Handoff.Ring.Size

namespace Handoff.Ring

/-! Cursors that have not started again.  As long as fewer than `Cursor.horizon`
elements were sent, the number of a cursor is its position, and a cursor that was
left behind is told from one that is ahead by a distance no ring can have.
-/

namespace Cursor

/-- Half of `period`. -/
def horizon : Nat := 0x4000000000000000

theorem period_eq : period = 2 * horizon := rfl

theorem lt_period {number : Nat} (below : number ≤ horizon) : number + 1 < period := by
  have large : 1 < horizon := by decide
  rw [period_eq]
  omega

variable {first second cursor : Cursor}

theorem toNat_advance_of_le (below : cursor.toNat ≤ horizon) :
    cursor.advance.toNat = cursor.toNat + 1 := by
  rw [toNat_advance]
  exact Nat.mod_eq_of_lt (lt_period below)

theorem toNat_distanceTo_of_le (ordered : first.toNat ≤ second.toNat)
    (below : second.toNat ≤ horizon) :
    (first.distanceTo second).toNat = second.toNat - first.toNat := by
  have within := lt_period below
  rw [toNat_distanceTo (by omega) (by omega), if_pos ordered]

theorem horizon_le_distanceTo (behind : second.toNat < first.toNat)
    (below : first.toNat ≤ horizon) : horizon ≤ (first.distanceTo second).toNat := by
  have within := lt_period below
  have wide := period_eq
  rw [toNat_distanceTo (by omega) (by omega), if_neg (by omega)]
  omega

theorem position_of_le (below : cursor.toNat ≤ horizon) : cursor.position = cursor :=
  position_of_lt (Nat.lt_of_succ_lt (lt_period below))

theorem isClaimed_of_le (below : cursor.toNat ≤ horizon) : cursor.isClaimed = false :=
  isClaimed_eq_false (Nat.lt_of_succ_lt (lt_period below))

theorem isClaimed_claim (cursor : Cursor) : cursor.claim.isClaimed = true := by
  have kept : (cursor.word ||| claimBit) &&& claimBit = claimBit := by
    apply UInt64.toBitVec_inj.mp
    ext place
    simp [Bool.and_or_distrib_right]
  rw [isClaimed, claim, kept]
  decide

theorem position_claim (below : cursor.toNat ≤ horizon) : cursor.claim.position = cursor := by
  have cleared : (cursor.word ||| claimBit) &&& positionMask = cursor.word &&& positionMask := by
    apply UInt64.toBitVec_inj.mp
    ext place
    simp [Bool.and_or_distrib_right, positionMask]
  rw [claim, position, cleared]
  exact position_of_le below

end Cursor

/-- The mask of a ring for `bound` elements, which has one slot more, a power of
two. -/
structure IsMask (mask : UInt64) (bound : Nat) : Prop where
  toNat_eq : mask.toNat = bound
  shape : ∃ bits, bound + 1 = 1 <<< bits
  roomy : 0 < bound
  small : bound < Cursor.horizon

namespace IsMask

variable {mask : UInt64} {bound : Nat} {first second : Cursor}

theorem slot_eq (isMask : IsMask mask bound) (cursor : Cursor) :
    cursor.slot mask = cursor.toNat % (bound + 1) := by
  obtain ⟨bits, shape⟩ := isMask.shape
  rw [Cursor.slot_eq_mod (by rw [isMask.toNat_eq, shape]), isMask.toNat_eq]

/-! How one end judges the ring by what it remembers of the other. -/

theorem distanceTo_beq_iff (isMask : IsMask mask bound) (ordered : first.toNat ≤ second.toNat)
    (below : second.toNat ≤ Cursor.horizon) :
    (first.distanceTo second == mask) = true ↔ second.toNat = first.toNat + bound := by
  have distance := Cursor.toNat_distanceTo_of_le ordered below
  rw [beq_iff_eq, ← UInt64.toNat_inj, distance, isMask.toNat_eq]
  omega

theorem distanceTo_lt_iff (isMask : IsMask mask bound) (ordered : first.toNat ≤ second.toNat)
    (below : second.toNat ≤ Cursor.horizon) :
    first.distanceTo second < mask ↔ second.toNat < first.toNat + bound := by
  have distance := Cursor.toNat_distanceTo_of_le ordered below
  rw [UInt64.lt_iff_toNat_lt, distance, isMask.toNat_eq]
  omega

/-- A cursor that lies behind is so far away that the ring seems empty. -/
theorem stocked_iff (isMask : IsMask mask bound) (firstBelow : first.toNat ≤ Cursor.horizon)
    (secondBelow : second.toNat ≤ Cursor.horizon) (near : second.toNat ≤ first.toNat + bound) :
    (first.distanceTo second != 0 && decide (first.distanceTo second ≤ mask)) = true ↔
      first.toNat < second.toNat := by
  have small := isMask.small
  simp only [Bool.and_eq_true, bne_iff_ne, ne_eq, decide_eq_true_eq, ← UInt64.toNat_inj,
    UInt64.le_iff_toNat_le, isMask.toNat_eq, UInt64.toNat_zero]
  by_cases behind : second.toNat < first.toNat
  · have far := Cursor.horizon_le_distanceTo behind firstBelow
    omega
  · have distance := Cursor.toNat_distanceTo_of_le (Nat.le_of_not_lt behind) secondBelow
    omega

end IsMask

namespace Memory

variable {bound : Nat}

theorem slot_eq (memory : Memory α) (mask : IsMask memory.mask bound) (cursor : Cursor) :
    cursor.slot memory.mask = cursor.toNat % (bound + 1) :=
  mask.slot_eq cursor

theorem slots_write (memory : Memory α) (mask : IsMask memory.mask bound) (cursor : Cursor)
    (value : α) :
    (memory.write cursor value).slots =
      memory.slots.write (cursor.toNat % (bound + 1)) value := by
  rw [← slot_eq memory mask cursor]
  rfl

theorem take_eq (memory : Memory α) (mask : IsMask memory.mask bound) (cursor : Cursor) :
    memory.take cursor =
      ((memory.slots.take (cursor.toNat % (bound + 1))).1,
        { memory with slots := (memory.slots.take (cursor.toNat % (bound + 1))).2 }) := by
  rw [← slot_eq memory mask cursor]
  rfl

end Memory

theorem leastPowerOfTwo_shape (least : Nat) :
    ∃ bits, leastPowerOfTwo least = 1 <<< bits := by
  unfold leastPowerOfTwo
  split
  · exact ⟨0, rfl⟩
  · exact ⟨_, rfl⟩

theorem isMask_of_ringSize? {requested size : Nat} (fitting : ringSize? requested = some size) :
    IsMask (UInt64.ofNat (size - 1)) (size - 1) := by
  have enough := le_leastPowerOfTwo (max requested 2)
  obtain ⟨bits, shape⟩ := leastPowerOfTwo_shape (max requested 2)
  unfold ringSize? at fitting
  simp only [Option.ite_none_right_eq_some, Option.some.injEq] at fitting
  obtain ⟨small, rfl⟩ := fitting
  have limit : largestRing = 0x4000000000000000 := rfl
  rw [limit] at small
  refine ⟨?_, ⟨bits, by rw [← shape]; omega⟩, by omega, by unfold Cursor.horizon; omega⟩
  rw [UInt64.toNat_ofNat']
  omega

end Handoff.Ring
