import Handoff.Handle.Registry

namespace Handoff.Handle

/-! What can be done with named handles, written as data, and how it is answered.
A name that stands for no handle answers only that its handle is gone.
-/

inductive Action (α : Type u) where
  | create (name : String) (payload : α)
  | clone (name target : String)
  | move (name target : String)
  | drop (name : String)
  | read (name : String)
  | sameBlock (name other : String)
  /-- Assigns through the handle only if there is no other. -/
  | assign (name : String) (payload : α)
  /-- Assigns through the handle, whoever else sees it. -/
  | assignShared (name : String) (payload : α)
  /-- Makes clones and then drops them all. -/
  | cloneMany (name : String) (count : Nat)
  /-- Gives a clone to each of several threads, which clone it and drop the clone
  again, round after round, and then drop their own. -/
  | shareAmong (name : String) (threads rounds : Nat)
  /-- Gives the handle to another thread, which assigns through it if there is
  something to assign, and then drops it. -/
  | sendAway (name : String) (payload : Option α)
deriving DecidableEq

inductive Answer (α : Type u) where
  | done
  | gone
  | truth (value : Bool)
  | count (holders : Nat)
  /-- The payload, read in each of the three ways there are. -/
  | payloads (held dereferenced borrowed : α)
  /-- The number of handles with all clones alive, whether all clones are handles
  to the same block, and the number after they are dropped. -/
  | cloned (peak : Nat) (same : Bool) (after : Nat)
  /-- What happened on the other thread. -/
  | away (log : List (Event α))
deriving DecidableEq

namespace Heap

/-- A number of clones of a handle, and the heap with all of them alive. -/
def clones (heap : Heap α) (address : Address) (count : Nat) : List Address × Heap α :=
  Nat.repeat (fun (made, heap) =>
    let (copy, heap) := heap.share address
    (copy :: made, heap)) count ([], heap)

def releaseAll (heap : Heap α) (handles : List Address) : Step α Unit :=
  handles.foldl (fun step handle => step.andThen fun _ heap => heap.release handle)
    ⟨(), heap, []⟩

def cloneAndRelease (heap : Heap α) (address : Address) : Step α Unit :=
  let (copy, heap) := heap.share address
  heap.release copy

end Heap

namespace Registry

/-- Acts on the handle a name stands for. -/
def withHandle (registry : Registry α) (name : String) (act : Address → Step α (Answer α)) :
    Step α (Answer α) :=
  match registry.find? name with
  | some address => act address
  | none => ⟨.gone, registry, []⟩

def cloneMany (registry : Registry α) (address : Address) (count : Nat) : Step α (Answer α) :=
  let (copies, shared) := registry.heap.clones address count
  (registry.onHeap (shared.releaseAll copies)).andThen fun _ registry =>
    let same := copies.all (· == address)
    ⟨.cloned (shared.holders address) same (registry.heap.holders address), registry, []⟩

def shareAmong (registry : Registry α) (address : Address) (threads rounds : Nat) :
    Step α (Answer α) :=
  let (copies, shared) := registry.heap.clones address threads
  let round (step : Heap.Step α Unit) : Heap.Step α Unit :=
    step.andThen fun _ heap => heap.cloneAndRelease address
  let used := Nat.repeat round (threads * rounds) ⟨(), shared, []⟩
  (registry.onHeap (used.andThen fun _ heap => heap.releaseAll copies)).andThen fun _ registry =>
    ⟨.count (registry.heap.holders address), registry, []⟩

/-- The other thread owns the handle, so the payload may go with it. -/
def sendAway (registry : Registry α) (name : String) (address : Address) (payload : Option α) :
    Step α Unit :=
  match payload with
  | some payload =>
      (registry.onHeap (registry.heap.assign address payload)).andThen fun _ registry =>
        registry.drop name address
  | none => registry.drop name address

def perform (registry : Registry α) : Action α → Step α (Answer α)
  | .create name payload => (registry.create name payload).mapResult fun _ => .done
  | .clone name target =>
      registry.withHandle name fun address =>
        (registry.clone address target).mapResult fun _ => .done
  | .move name target =>
      registry.withHandle name fun address =>
        (registry.move name address target).mapResult fun _ => .done
  | .drop name =>
      registry.withHandle name fun address =>
        (registry.drop name address).mapResult fun _ => .done
  | .read name =>
      registry.withHandle name fun address =>
        match registry.heap.payload? address with
        | some payload => ⟨.payloads payload payload payload, registry, []⟩
        | none => ⟨.gone, registry, []⟩
  | .sameBlock name other =>
      registry.withHandle name fun first =>
        registry.withHandle other fun second => ⟨.truth (first == second), registry, []⟩
  | .assign name payload =>
      registry.withHandle name fun address =>
        (registry.onHeap (registry.heap.assignUnique address payload)).mapResult .truth
  | .assignShared name payload =>
      registry.withHandle name fun address =>
        (registry.onHeap (registry.heap.assign address payload)).mapResult fun _ => .done
  | .cloneMany name count => registry.withHandle name (registry.cloneMany · count)
  | .shareAmong name threads rounds =>
      registry.withHandle name (registry.shareAmong · threads rounds)
  | .sendAway name payload =>
      registry.withHandle name fun address =>
        let sent := registry.sendAway name address payload
        ⟨.away sent.log, sent.state, []⟩

end Registry

end Handoff.Handle
