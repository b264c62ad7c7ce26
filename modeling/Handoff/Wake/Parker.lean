namespace Handoff.Wake

/-! A slot in which a thread leaves a handle to itself before it parks, so that
another thread can take the handle and unpark it.  A lock word of two bits keeps
accesses to the slot apart: one is held while a handle is put in, the other while
one is taken out.  Nobody waits for the lock.  A taker that finds it held backs
off, and leaves its bit behind as a message to the holder.
-/

structure ParkerLock where
  registering : Bool
  waking : Bool
deriving DecidableEq

namespace ParkerLock

def idle : ParkerLock := ⟨false, false⟩

def held : ParkerLock := ⟨true, false⟩

end ParkerLock

structure Parker (η : Type u) where
  lock : ParkerLock := .idle
  slot : Option η := none
deriving DecidableEq

namespace Parker

/-! Each of the following touches the lock word or the slot once. -/

/-- Takes the lock for registering, if nobody has it. -/
def acquire? (parker : Parker η) : Option (Parker η) :=
  if parker.lock = .idle then some { parker with lock := .held } else none

/-- Gives the lock back, if no taker came by meanwhile. -/
def release? (parker : Parker η) : Option (Parker η) :=
  if parker.lock = .held then some { parker with lock := .idle } else none

/-- Announces a taker; the answer is the lock word as it was before. -/
def announce (parker : Parker η) : ParkerLock × Parker η :=
  (parker.lock, { parker with lock := { parker.lock with waking := true } })

def reset (parker : Parker η) : Parker η :=
  { parker with lock := .idle }

def put (parker : Parker η) (handle : η) : Parker η :=
  { parker with slot := some handle }

def vacate (parker : Parker η) : Option η × Parker η :=
  (parker.slot, { parker with slot := none })

/-! The operations, when nobody interferes. -/

/-- Leaves a handle.  If a taker came by while the lock was held, the handle goes
to it at once: it is the first part of the answer, to be unparked. -/
def register (parker : Parker η) (handle : η) : Option η × Parker η :=
  match parker.acquire? with
  | none => (none, parker)
  | some locked =>
      let stored := locked.put handle
      match stored.release? with
      | some released => (none, released)
      | none =>
          let (pending, vacated) := stored.vacate
          (pending, vacated.reset)

/-- Takes the handle out, if there is one and nobody holds the lock. -/
def take (parker : Parker η) : Option η × Parker η :=
  let (before, announced) := parker.announce
  if before = .idle then
    let (handle, vacated) := announced.vacate
    (handle, vacated.reset)
  else (none, announced)

theorem register_of_idle {parker : Parker η} (idle : parker.lock = .idle) (handle : η) :
    parker.register handle = (none, { parker with slot := some handle }) := by
  cases parker
  cases idle
  rfl

theorem take_of_idle {parker : Parker η} (idle : parker.lock = .idle) :
    parker.take = (parker.slot, { parker with slot := none }) := by
  cases parker
  cases idle
  rfl

end Parker

end Handoff.Wake
