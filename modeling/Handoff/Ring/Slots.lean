import Std.Data.TreeMap.Lemmas

namespace Handoff.Ring

/-! The memory of a ring.  A slot holds an element or is vacant.  Only the slots in
use are stored, so a large ring costs no more than what it holds.
-/

/-- `faulty` remembers whether an element was ever written over another one or
looked for in a vacant slot. -/
structure Slots (α : Type u) where
  held : Std.TreeMap Nat α
  faulty : Bool

namespace Slots

def vacant : Slots α := ⟨{}, false⟩

def read (slots : Slots α) (index : Nat) : Option α :=
  slots.held[index]?

def write (slots : Slots α) (index : Nat) (value : α) : Slots α :=
  ⟨slots.held.insert index value, slots.faulty || (slots.read index).isSome⟩

/-- Moves the element of a slot out and leaves the slot vacant. -/
def take (slots : Slots α) (index : Nat) : Option α × Slots α :=
  (slots.read index, ⟨slots.held.erase index, slots.faulty || (slots.read index).isNone⟩)

@[simp] theorem read_vacant (index : Nat) : (vacant : Slots α).read index = none := by
  simp [vacant, read]

theorem read_write (slots : Slots α) (index other : Nat) (value : α) :
    (slots.write index value).read other =
      if index = other then some value else slots.read other := by
  simp [write, read, Std.TreeMap.getElem?_insert]

theorem read_take (slots : Slots α) (index other : Nat) :
    (slots.take index).2.read other = if index = other then none else slots.read other := by
  simp [take, read, Std.TreeMap.getElem?_erase]

@[simp] theorem take_fst (slots : Slots α) (index : Nat) :
    (slots.take index).1 = slots.read index := rfl

@[simp] theorem faulty_write (slots : Slots α) (index : Nat) (value : α) :
    (slots.write index value).faulty = (slots.faulty || (slots.read index).isSome) := rfl

@[simp] theorem faulty_take (slots : Slots α) (index : Nat) :
    (slots.take index).2.faulty = (slots.faulty || (slots.read index).isNone) := rfl

end Slots

end Handoff.Ring
