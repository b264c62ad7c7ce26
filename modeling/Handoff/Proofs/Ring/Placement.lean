import Handoff.Ring.Memory
import Mathlib.Logic.Function.Basic

namespace Handoff.Ring

/-! Which elements the slots of a ring hold.  A position is an absolute place in the
stream of elements; its slot is its remainder by the size of the ring.  Two
positions with elements never share a slot, so a write finds a vacant slot and a
take finds the element it is looking for.
-/

theorem mod_ne_of_lt_of_lt {size first second : Nat} (ordered : first < second)
    (near : second < first + size) : first % size ≠ second % size := by
  intro same
  have divides : (second - first) % size = 0 := Nat.sub_mod_eq_zero_of_mod_eq same.symm
  rw [Nat.mod_eq_of_lt (by omega)] at divides
  omega

namespace Slots

/-- The slots hold exactly the elements that `held` gives to the positions, and
nothing has gone wrong so far. -/
structure Hold (slots : Slots α) (size : Nat) (held : Nat → Option α) : Prop where
  apart : ∀ first second, (held first).isSome → (held second).isSome →
    first % size = second % size → first = second
  stored : ∀ position value, held position = some value →
    slots.read (position % size) = some value
  vacant : ∀ index, (∀ position, (held position).isSome → position % size ≠ index) →
    slots.read index = none
  sound : slots.faulty = false

variable {slots : Slots α} {size position : Nat} {held : Nat → Option α} {value : α}

theorem hold_vacant (size : Nat) : (vacant : Slots α).Hold size fun _ => none where
  apart := by intro _ _ present; simp at present
  stored := by intro _ _ present; simp at present
  vacant := by intro index _; simp
  sound := rfl

theorem Hold.read_eq (hold : slots.Hold size held) (present : (held position).isSome) :
    slots.read (position % size) = held position := by
  obtain ⟨value, found⟩ := Option.isSome_iff_exists.mp present
  rw [hold.stored position value found, found]

theorem Hold.write (hold : slots.Hold size held) (value : α)
    (free : ∀ other, (held other).isSome → other % size ≠ position % size) :
    (slots.write (position % size) value).Hold size
      (Function.update held position (some value)) where
  apart := by
    intro first second firstHeld secondHeld same
    by_cases isFirst : first = position
    · by_cases isSecond : second = position
      · rw [isFirst, isSecond]
      · rw [Function.update_of_ne isSecond] at secondHeld
        exact absurd (isFirst ▸ same.symm) (free second secondHeld)
    · rw [Function.update_of_ne isFirst] at firstHeld
      by_cases isSecond : second = position
      · exact absurd (isSecond ▸ same) (free first firstHeld)
      · rw [Function.update_of_ne isSecond] at secondHeld
        exact hold.apart first second firstHeld secondHeld same
  stored := by
    intro other element found
    rw [read_write]
    by_cases isOther : other = position
    · subst isOther
      simpa using found
    · rw [Function.update_of_ne isOther] at found
      rw [if_neg (free other (by simp [found])).symm]
      exact hold.stored other element found
  vacant := by
    intro index unused
    have differs : position % size ≠ index := unused position (by simp)
    rw [read_write, if_neg differs]
    apply hold.vacant
    intro other present
    by_cases isOther : other = position
    · exact isOther ▸ differs
    · exact unused other (by rwa [Function.update_of_ne isOther])
  sound := by
    have vacated : slots.read (position % size) = none := hold.vacant _ free
    simp [hold.sound, vacated]

theorem Hold.take (hold : slots.Hold size held) (present : held position = some value) :
    (slots.take (position % size)).1 = some value ∧
      (slots.take (position % size)).2.Hold size (Function.update held position none) := by
  have found := hold.stored position value present
  refine ⟨found, ?_, ?_, ?_, ?_⟩
  · intro first second firstHeld secondHeld same
    by_cases isFirst : first = position
    · simp [isFirst] at firstHeld
    · by_cases isSecond : second = position
      · simp [isSecond] at secondHeld
      · rw [Function.update_of_ne isFirst] at firstHeld
        rw [Function.update_of_ne isSecond] at secondHeld
        exact hold.apart first second firstHeld secondHeld same
  · intro other element stillHeld
    by_cases isOther : other = position
    · simp [isOther] at stillHeld
    · rw [Function.update_of_ne isOther] at stillHeld
      have differs : position % size ≠ other % size := fun same =>
        isOther (hold.apart other position (by simp [stillHeld]) (by simp [present]) same.symm)
      rw [read_take, if_neg differs]
      exact hold.stored other element stillHeld
  · intro index unused
    rw [read_take]
    split
    · rfl
    · next differs =>
        apply hold.vacant
        intro other held
        by_cases isOther : other = position
        · exact isOther ▸ differs
        · exact unused other (by rwa [Function.update_of_ne isOther])
  · simp [hold.sound, found]

end Slots

/-- The elements of a list, one after the other, the first of them at `first`. -/
def placed (first : Nat) (items : List α) (position : Nat) : Option α :=
  if first ≤ position then items[position - first]? else none

variable {first position : Nat} {items : List α}

theorem isSome_placed :
    (placed first items position).isSome ↔ first ≤ position ∧ position < first + items.length := by
  unfold placed
  split <;> simp <;> omega

@[simp] theorem placed_nil : placed first ([] : List α) = fun _ => none := by
  funext position
  simp [placed]

@[simp] theorem placed_head (item : α) : placed first (item :: items) first = some item := by
  simp [placed]

theorem update_placed_append (first : Nat) (items : List α) (value : α) :
    Function.update (placed first items) (first + items.length) (some value) =
      placed first (items ++ [value]) := by
  funext position
  by_cases last : position = first + items.length
  · subst last
    simp [placed]
  · rw [Function.update_of_ne last]
    unfold placed
    split
    · by_cases inside : position - first < items.length
      · rw [List.getElem?_append_left inside]
      · rw [List.getElem?_eq_none (by omega), List.getElem?_eq_none (by simp; omega)]
    · rfl

theorem update_placed_cons (first : Nat) (item : α) (rest : List α) :
    Function.update (placed first (item :: rest)) first none = placed (first + 1) rest := by
  funext position
  by_cases atFirst : position = first
  · subst atFirst
    rw [Function.update_self, placed, if_neg (by omega)]
  · rw [Function.update_of_ne atFirst]
    unfold placed
    by_cases beyond : first + 1 ≤ position
    · have offset : position - first = position - (first + 1) + 1 := by omega
      rw [if_pos beyond, if_pos (by omega), offset, List.getElem?_cons_succ]
    · rw [if_neg beyond, if_neg (by omega)]

/-- A ring with room has a vacant slot behind its last element. -/
theorem placed_free {size : Nat} (room : items.length < size) (other : Nat)
    (present : (placed first items other).isSome) :
    other % size ≠ (first + items.length) % size := by
  obtain ⟨lower, upper⟩ := isSome_placed.mp present
  exact mod_ne_of_lt_of_lt upper (by omega)

end Handoff.Ring
