import Handoff.Handle.Heap

namespace Handoff.Handle

/-! Handles under names.  A name stands for at most one handle, and the names are
kept in ascending order.
-/

structure Registry (α : Type u) where
  heap : Heap α := {}
  names : List (String × Address) := []
deriving DecidableEq

namespace Registry

abbrev Step (α : Type u) (ρ : Type v) := Outcome (Registry α) (Event α) ρ

def find? (registry : Registry α) (name : String) : Option Address :=
  registry.names.lookup name

/-- Puts a name in its place, over the handle it stood for before. -/
def insertName (name : String) (address : Address) :
    List (String × Address) → List (String × Address)
  | [] => [(name, address)]
  | (other, held) :: rest =>
      if name = other then (name, address) :: rest
      else if name < other then (name, address) :: (other, held) :: rest
      else (other, held) :: insertName name address rest

def forget (registry : Registry α) (name : String) : Registry α :=
  { registry with names := registry.names.filter fun entry => entry.1 != name }

def onHeap (registry : Registry α) (step : Heap.Step α ρ) : Step α ρ :=
  { step with state := { registry with heap := step.state } }

/-- Stores a handle that was already made.  The one the name stood for is dropped
only then. -/
def bind (registry : Registry α) (name : String) (address : Address) : Step α Unit :=
  let named := { registry with names := insertName name address registry.names }
  match registry.find? name with
  | some old => named.onHeap (named.heap.release old)
  | none => ⟨(), named, []⟩

def create (registry : Registry α) (name : String) (payload : α) : Step α Unit :=
  let (address, heap) := registry.heap.allocate payload
  { registry with heap := heap }.bind name address

/-- Names one more handle to a block. -/
def clone (registry : Registry α) (address : Address) (target : String) : Step α Unit :=
  let (copy, heap) := registry.heap.share address
  { registry with heap := heap }.bind target copy

/-- Gives a handle another name. -/
def move (registry : Registry α) (name : String) (address : Address) (target : String) :
    Step α Unit :=
  (registry.forget name).bind target address

def drop (registry : Registry α) (name : String) (address : Address) : Step α Unit :=
  let forgotten := registry.forget name
  forgotten.onHeap (forgotten.heap.release address)

/-- Drops every handle, in the order of the names. -/
def dropAll (registry : Registry α) : Step α Unit :=
  registry.names.foldl (fun dropped (name, address) =>
    dropped.andThen fun _ registry => registry.drop name address) ⟨(), registry, []⟩

/-- The live handles: the name, the number of handles to the same block, and the
payload. -/
def live (registry : Registry α) : List (String × Nat × α) :=
  registry.names.filterMap fun (name, address) =>
    (registry.heap.block? address).map fun block => (name, block.holders, block.payload)

end Registry

end Handoff.Handle
