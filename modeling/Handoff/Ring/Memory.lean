import Handoff.Ring.Cursor
import Handoff.Ring.Slots

namespace Handoff.Ring

/-! What the two ends of a ring share.  The elements in the ring are those at the
positions from the receive cursor up to the send cursor, and the slot of a
position is found by masking it.  One slot is always left free, so that a full
ring can be told from an empty one by its cursors.
-/

structure Memory (α : Type u) where
  /-- One less than the number of slots. -/
  mask : UInt64
  sendCursor : Cursor
  receiveCursor : Cursor
  /-- Set as soon as either end is dropped. -/
  closed : Bool
  slots : Slots α

namespace Memory

def ofSize (size : Nat) : Memory α :=
  { mask := UInt64.ofNat (size - 1)
    sendCursor := .start
    receiveCursor := .start
    closed := false
    slots := .vacant }

/-- The number of elements the ring can hold. -/
def capacity (memory : Memory α) : Nat :=
  memory.mask.toNat

def length (memory : Memory α) : Nat :=
  min (memory.receiveCursor.position.distanceTo memory.sendCursor).toNat memory.capacity

def freeSlots (memory : Memory α) : Nat :=
  memory.capacity - memory.length

def isFull (memory : Memory α) : Bool :=
  memory.length == memory.capacity

/-- As the sender judges it. -/
def isEmpty (memory : Memory α) : Bool :=
  memory.length == 0

/-- As the receiver judges it. -/
def isDrained (memory : Memory α) : Bool :=
  memory.sendCursor == memory.receiveCursor.position

/-- What a blocked sender waits for. -/
def sendReady (memory : Memory α) : Bool :=
  !memory.isFull || memory.closed

/-- What a blocked receiver waits for. -/
def receiveReady (memory : Memory α) : Bool :=
  !memory.isDrained || memory.closed

/-! Each of the following touches the memory once. -/

def write (memory : Memory α) (cursor : Cursor) (value : α) : Memory α :=
  { memory with slots := memory.slots.write (cursor.slot memory.mask) value }

/-- The element at a position, and the memory without it. -/
def take (memory : Memory α) (cursor : Cursor) : Option α × Memory α :=
  let (value, slots) := memory.slots.take (cursor.slot memory.mask)
  (value, { memory with slots := slots })

def moveSend (memory : Memory α) (cursor : Cursor) : Memory α :=
  { memory with sendCursor := cursor }

def moveReceive (memory : Memory α) (cursor : Cursor) : Memory α :=
  { memory with receiveCursor := cursor }

/-- Moves the receive cursor only if it still is where it is thought to be. -/
def exchangeReceive? (memory : Memory α) (expected desired : Cursor) : Option (Memory α) :=
  if memory.receiveCursor = expected then some (memory.moveReceive desired) else none

def close (memory : Memory α) : Memory α :=
  { memory with closed := true }

/-! The elements, as a third party would see them. -/

def peek (memory : Memory α) (cursor : Cursor) : Option α :=
  memory.slots.read (cursor.slot memory.mask)

/-- The positions of the elements in the ring, oldest first. -/
def unread (memory : Memory α) : List Cursor :=
  let oldest := memory.receiveCursor.position
  (List.range (oldest.distanceTo memory.sendCursor).toNat).map oldest.advanceBy

/-- The elements in the ring, oldest first. -/
def contents (memory : Memory α) : List α :=
  memory.unread.filterMap memory.peek

/-- Takes the elements at the given positions, one after the other. -/
def takeEach (memory : Memory α) (positions : List Cursor) : Array α × Memory α :=
  positions.foldl (fun (values, memory) cursor =>
    let (value, memory) := memory.take cursor
    (values ++ value.toArray, memory)) (#[], memory)

end Memory

end Handoff.Ring
