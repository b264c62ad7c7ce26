import Handoff.Event
import Handoff.Outcome

namespace Handoff.Handle

/-! Payloads that are kept alive by counting.  A block holds a payload and the
number of handles to it.  When the last handle goes, the payload is destroyed and
the block is gone; its address is never used again.
-/

structure Block (α : Type u) where
  holders : Nat
  payload : α
deriving DecidableEq

abbrev Address := Nat

/-- The block at each address that was ever given out, if it still lives. -/
structure Heap (α : Type u) where
  blocks : Array (Option (Block α)) := #[]
deriving DecidableEq

namespace Heap

abbrev Step (α : Type u) (ρ : Type v) := Outcome (Heap α) (Event α) ρ

def block? (heap : Heap α) (address : Address) : Option (Block α) :=
  heap.blocks[address]?.join

def payload? (heap : Heap α) (address : Address) : Option α :=
  (heap.block? address).map Block.payload

/-- An address without a block has no handles. -/
def holders (heap : Heap α) (address : Address) : Nat :=
  ((heap.block? address).map Block.holders).getD 0

def store (heap : Heap α) (address : Address) (block : Option (Block α)) : Heap α :=
  ⟨heap.blocks.setIfInBounds address block⟩

/-- A new block with one handle. -/
def allocate (heap : Heap α) (payload : α) : Address × Heap α :=
  (heap.blocks.size, ⟨heap.blocks.push (some ⟨1, payload⟩)⟩)

/-- One more handle to a block, which has the same address. -/
def share (heap : Heap α) (address : Address) : Address × Heap α :=
  match heap.block? address with
  | some block => (address, heap.store address (some { block with holders := block.holders + 1 }))
  | none => (address, heap)

/-- One handle less.  The payload is destroyed with the last. -/
def release (heap : Heap α) (address : Address) : Step α Unit :=
  match heap.block? address with
  | some block =>
      if block.holders = 1 then ⟨(), heap.store address none, [.destroyed block.payload]⟩
      else ⟨(), heap.store address (some { block with holders := block.holders - 1 }), []⟩
  | none => ⟨(), heap, []⟩

/-- Puts a new payload in place of the old one, which is destroyed. -/
def assign (heap : Heap α) (address : Address) (payload : α) : Step α Unit :=
  match heap.block? address with
  | some block =>
      { result := ()
        state := heap.store address (some { block with payload := payload })
        log := [.destroyed block.payload] }
  | none => ⟨(), heap, []⟩

/-- Assigns only through the sole handle to a block. -/
def assignUnique (heap : Heap α) (address : Address) (payload : α) : Step α Bool :=
  if heap.holders address = 1 then (heap.assign address payload).mapResult fun _ => true
  else ⟨false, heap, []⟩

end Heap

end Handoff.Handle
