import Handoff.Proofs.Ring.Wraparound
import Mathlib.Data.Nat.ModEq
import Mathlib.Logic.Function.Iterate
import Mathlib.Order.Bounds.Basic

namespace Handoff.Ring

/-! How large a ring is made, and how cursors find its slots.  Masking, wrapping
subtraction and the limit on the size fit together: neighbouring positions never share a
slot, and no ring is so large that a cursor which lies behind could be taken for one ahead.
-/

/-! The size of a ring. -/

theorem isLeast_leastPowerOfTwo (bound : Nat) :
    IsLeast {power | (∃ bits, power = 2 ^ bits) ∧ bound ≤ power} (leastPowerOfTwo bound) := by
  obtain ⟨bits, shape⟩ := leastPowerOfTwo_shape bound
  refine ⟨⟨⟨bits, by rw [shape, Nat.one_shiftLeft]⟩, le_leastPowerOfTwo bound⟩, ?_⟩
  rintro power ⟨⟨exponent, rfl⟩, covers⟩
  rw [← Nat.one_shiftLeft] at covers ⊢
  exact leastPowerOfTwo_le covers

theorem largestRing_eq : largestRing = 2 ^ 62 :=
  Nat.one_shiftLeft 62

theorem leastPowerOfTwo_le_largestRing_iff (bound : Nat) :
    leastPowerOfTwo bound ≤ largestRing ↔ bound ≤ 2 ^ 62 := by
  constructor
  · intro small
    rw [← largestRing_eq]
    exact Nat.le_trans (le_leastPowerOfTwo bound) small
  · intro small
    rw [← Nat.one_shiftLeft] at small
    exact leastPowerOfTwo_le small

theorem ringSize?_eq_some_iff (capacity size : Nat) :
    ringSize? capacity = some size ↔ max capacity 2 ≤ 2 ^ 62 ∧
      IsLeast {power | (∃ bits, power = 2 ^ bits) ∧ max capacity 2 ≤ power} size := by
  have least := isLeast_leastPowerOfTwo (max capacity 2)
  unfold ringSize?
  simp only [Option.ite_none_right_eq_some, Option.some.injEq, leastPowerOfTwo_le_largestRing_iff]
  refine and_congr_right fun _ => ⟨?_, least.unique⟩
  rintro rfl
  exact least

theorem Channel.create_eq_tooLarge_iff (overflow : Overflow) (capacity : Nat) :
    (create overflow capacity : Except CreationError (Step α Unit)) =
      .error (.tooLarge capacity) ↔ 2 ^ 62 < capacity := by
  rw [← largestRing_eq, ← ringSize?_eq_none_iff, create]
  cases ringSize? capacity <;> simp

/-- The largest ring is made, whatever its elements are. -/
example : (Channel.create .wait (2 ^ 62) : Except CreationError (Channel.Step α Unit)).isOk :=
  rfl

/-! The slots. -/

namespace Cursor

variable {first : Cursor} {mask : UInt64} {bound steps : Nat}

theorem toNat_iterate_advance (below : first.toNat < period) (steps : Nat) :
    (advance^[steps] first).toNat = (first.toNat + steps) % period := by
  induction steps with
  | zero => exact (Nat.mod_eq_of_lt below).symm
  | succ steps ih =>
      rw [Function.iterate_succ_apply', toNat_advance, ih, Nat.mod_add_mod]
      rfl

theorem toNat_iterate_of_lt (near : first.toNat + steps < period) :
    (advance^[steps] first).toNat = first.toNat + steps := by
  rw [toNat_iterate_advance (by omega), Nat.mod_eq_of_lt near]

/-- Starting again after the last position does not matter, since the size of a ring
divides the number of positions. -/
theorem slot_iterate_advance (isMask : IsMask mask bound) (below : first.toNat < period)
    (steps : Nat) :
    (advance^[steps] first).slot mask = (first.toNat + steps) % (bound + 1) := by
  rw [isMask.slot_eq, toNat_iterate_advance below]
  exact isMask.slot_wrap (first.toNat + steps) 0

/-- What the arithmetic of cursors owes to a ring of `size` slots.  Two of `size` positions in
a row never share a slot, and a position that lies behind is farther away than the ring is
large. -/
structure Addresses (mask : UInt64) (size : Nat) (first : Cursor) : Prop where
  slot_eq : first.slot mask = first.toNat % size
  slot_lt : first.slot mask < size
  apart : ∀ one < size, ∀ other < size,
    (advance^[one] first).slot mask = (advance^[other] first).slot mask → one = other
  advances : ∀ steps, first.toNat + steps < 2 ^ 63 →
    (advance^[steps] first).toNat = first.toNat + steps
  ahead : ∀ steps, first.toNat + steps < 2 ^ 63 →
    (first.distanceTo (advance^[steps] first)).toNat = steps
  behind : ∀ steps, first.toNat + steps < 2 ^ 63 → 0 < steps → steps ≤ 2 ^ 62 →
    mask < (advance^[steps] first).distanceTo first

theorem distanceTo_iterate (near : first.toNat + steps < period) :
    (first.distanceTo (advance^[steps] first)).toNat = steps := by
  have number := toNat_iterate_of_lt near
  rw [toNat_distanceTo (by omega) (by omega), if_pos (by omega), number]
  omega

theorem distanceTo_of_iterate (near : first.toNat + steps < period) (moved : 0 < steps) :
    ((advance^[steps] first).distanceTo first).toNat = period - steps := by
  have number := toNat_iterate_of_lt near
  rw [toNat_distanceTo (by omega) (by omega), if_neg (by omega), number]
  omega

theorem addresses (isMask : IsMask mask bound) (below : first.toNat < period) :
    first.Addresses mask (bound + 1) where
  slot_eq := isMask.slot_eq first
  slot_lt := by
    rw [isMask.slot_eq]
    exact Nat.mod_lt _ bound.succ_pos
  apart := by
    intro one oneBelow other otherBelow same
    rw [slot_iterate_advance isMask below, slot_iterate_advance isMask below] at same
    exact (Nat.ModEq.add_left_cancel' _ same).eq_of_lt_of_lt oneBelow otherBelow
  advances _ near := toNat_iterate_of_lt near
  ahead _ near := distanceTo_iterate near
  behind := by
    intro steps near moved few
    have small := isMask.small
    rw [UInt64.lt_iff_toNat_lt, isMask.toNat_eq, distanceTo_of_iterate near moved]
    unfold horizon at small
    unfold period
    omega

end Cursor

/-- The receiver does not rely on a send cursor that lies behind. -/
theorem Channel.seemsStocked_of_overtaken {channel : Channel α}
    (overtaken : channel.mask < channel.receiveCursor.distanceTo channel.sendCache) :
    channel.seemsStocked = false := by
  have far : ¬channel.receiveCursor.distanceTo channel.sendCache ≤ channel.mask := by
    rw [UInt64.le_iff_toNat_le]
    rw [UInt64.lt_iff_toNat_lt] at overtaken
    omega
  simp [seemsStocked, far]

/-- A ring gets the least size that serves, unless that is more than `2 ^ 62`; and in a ring of
any such size cursors tell where an element is, how many there are, and whether one of them
has been overtaken, by up to `2 ^ 62` positions. -/
theorem sizes_fit_cursors (capacity : Nat) :
    (∀ size, ringSize? capacity = some size ↔ max capacity 2 ≤ 2 ^ 62 ∧
      IsLeast {power | (∃ bits, power = 2 ^ bits) ∧ max capacity 2 ≤ power} size) ∧
    (ringSize? capacity = none ↔ 2 ^ 62 < capacity) ∧
    (∀ overflow, (Channel.create overflow capacity : Except CreationError (Channel.Step α Unit)) =
      .error (.tooLarge capacity) ↔ 2 ^ 62 < capacity) ∧
    ∀ size, ringSize? capacity = some size → ∀ first : Cursor, first.toNat < 2 ^ 63 →
      first.Addresses (UInt64.ofNat (size - 1)) size ∧
        ∀ (channel : Channel α) (steps : Nat), channel.mask = UInt64.ofNat (size - 1) →
          channel.sendCache = first → channel.receiveCursor = Cursor.advance^[steps] first →
          first.toNat + steps < 2 ^ 63 → 0 < steps → steps ≤ 2 ^ 62 →
            channel.seemsStocked = false := by
  refine ⟨ringSize?_eq_some_iff capacity, ?_, (Channel.create_eq_tooLarge_iff · capacity), ?_⟩
  · rw [← largestRing_eq]
    exact ringSize?_eq_none_iff capacity
  intro size fitting first below
  have isMask := isMask_of_ringSize? fitting
  have roomy := isMask.roomy
  have addressed := Cursor.addresses isMask below
  rw [Nat.sub_add_cancel (by omega)] at addressed
  refine ⟨addressed, ?_⟩
  intro channel steps mask remembers pushed near moved few
  apply Channel.seemsStocked_of_overtaken
  rw [mask, remembers, pushed]
  exact addressed.behind steps near moved few

/-- Eight slots for a capacity of five.  The receive cursor has been pushed nine positions past
the send cursor that the receiver remembers, just below the last position. -/
theorem overtaken_in_eight_slots :
    let first : Cursor := ⟨0x7FFFFFFFFFFFFFF0⟩
    let channel : Channel Nat :=
      { Channel.ofSize .overwrite 8 with
        sendCache := first
        receiveCursor := Cursor.advance^[9] first }
    ringSize? 5 = some 8 ∧ first.toNat < 2 ^ 63 ∧ first.toNat + 9 < 2 ^ 63 ∧
      first.Addresses 7 8 ∧ 7 < (Cursor.advance^[9] first).distanceTo first ∧
      channel.seemsStocked = false := by
  intro first channel
  have fitting : ringSize? 5 = some 8 := by decide
  have below : first.toNat < 2 ^ 63 := by decide
  have near : first.toNat + 9 < 2 ^ 63 := by decide
  obtain ⟨addressed, recognised⟩ := (sizes_fit_cursors 5).2.2.2 8 fitting first below
  exact ⟨fitting, below, near, addressed, addressed.behind 9 near (by decide) (by decide),
    recognised channel 9 rfl rfl rfl near (by decide) (by decide)⟩

end Handoff.Ring
