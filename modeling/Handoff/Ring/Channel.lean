import Handoff.Outcome
import Handoff.Ring.Error
import Handoff.Ring.Memory
import Handoff.Ring.Size
import Handoff.Strategy

namespace Handoff.Ring

/-! A bounded channel between one sender and one receiver, and what each of its
operations does when nobody interferes with it.  Each end remembers where it last
saw the cursor of the other end, and looks again only when that memory says the
ring is full, or empty.
-/

structure Channel (α : Type u) extends Memory α where
  overflow : Overflow
  /-- The receive cursor as the sender last saw it. -/
  receiveCache : Cursor
  /-- The send cursor as the receiver last saw it. -/
  sendCache : Cursor
  senderAlive : Bool
  receiverAlive : Bool

/-- Why there is nothing to receive. -/
inductive Absence where
  | empty
  | closed
deriving DecidableEq

def Absence.toError : Absence → TryReceiveError
  | .empty => .empty
  | .closed => .closed

namespace Channel

/-- What an operation on a channel leaves behind. -/
abbrev Step (α : Type u) (ρ : Type v) := Outcome (Channel α) (Event α) ρ

/-- An empty channel with both ends, on a ring of the given size. -/
def ofSize (overflow : Overflow) (size : Nat) : Channel α :=
  { Memory.ofSize size with
    overflow := overflow
    receiveCache := .start
    sendCache := .start
    senderAlive := true
    receiverAlive := true }

/-- Makes a channel on a ring of at least `requested` slots, one of which always
stays free, and reports the size that the ring was given. -/
def create (overflow : Overflow) (requested : Nat) : Except CreationError (Step α Unit) :=
  match ringSize? requested with
  | none => .error (.tooLarge requested)
  | some size =>
      .ok
        { result := ()
          state := ofSize overflow size
          log := [.noted (.ringCreated requested size overflow.overwrites)] }

/-- Makes a channel with slots of so many bytes, if that much can be allocated. -/
def allocate (slotBytes : Nat) (overflow : Overflow) (requested : Nat) :
    Except CreationError (Step α Unit) :=
  (create overflow requested).bind fun created =>
    if largestAllocation < (created.state.capacity + 1) * slotBytes then .error .outOfMemory
    else .ok created

def withMemory (channel : Channel α) (memory : Memory α) : Channel α :=
  { channel with toMemory := memory }

/-! Sending. -/

/-- By the sender's memory of it, the ring has no room. -/
def seemsFull (channel : Channel α) : Bool :=
  channel.receiveCache.distanceTo channel.sendCursor == channel.mask

/-- Looks at the receive cursor again if the ring seems full. -/
def refreshReceiveCache (channel : Channel α) : Channel α :=
  if channel.seemsFull then { channel with receiveCache := channel.receiveCursor.position }
  else channel

/-- Destroys the oldest element if the ring is full. -/
def discardOldest (channel : Channel α) : Step α Unit :=
  let oldest := channel.receiveCursor
  if oldest.distanceTo channel.sendCursor < channel.mask then
    ⟨(), { channel with receiveCache := oldest }, []⟩
  else
    let (value, memory) := (channel.moveReceive oldest.advance).take oldest
    { result := ()
      state := { channel.withMemory memory with receiveCache := oldest.advance }
      log := value.toList.map .destroyed ++ [.noted (.oldestOverwritten oldest.toNat)] }

/-- Puts a value behind all others, in a ring that has room. -/
def publish (channel : Channel α) (value : α) : Step α Unit :=
  let cursor := channel.sendCursor
  { result := ()
    state := channel.withMemory ((channel.write cursor value).moveSend cursor.advance)
    log := [.notified .receiver] }

/-- Sends without waiting.  A closed channel takes nothing; a full one hands the
value back, or makes room for it. -/
def trySend (channel : Channel α) (value : α) : Step α (Except (TrySendError α) Unit) :=
  if channel.closed then ⟨.error (.closed value), channel, []⟩
  else
    let looked := channel.refreshReceiveCache
    if looked.seemsFull then
      match looked.overflow with
      | .wait => ⟨.error (.full value), looked, []⟩
      | .overwrite =>
          (looked.discardOldest.andThen fun _ room => room.publish value).mapResult .ok
    else (looked.publish value).mapResult .ok

/-! Receiving. -/

/-- By the receiver's memory of it, there is an element at the receive cursor.
A sender that overwrites can push that cursor past the remembered one, and the
distance between them is then larger than the ring. -/
def seemsStocked (channel : Channel α) : Bool :=
  let available := channel.receiveCursor.distanceTo channel.sendCache
  available != 0 && available ≤ channel.mask

/-- Looks at the send cursor again if the ring seems empty. -/
def refreshSendCache (channel : Channel α) : Except Absence (Channel α) :=
  if channel.seemsStocked then .ok channel
  else if channel.sendCursor = channel.receiveCursor then
    .error (if channel.closed then .closed else .empty)
  else .ok { channel with sendCache := channel.sendCursor }

/-- Takes the oldest element, or says why there is none.  When nobody interferes,
no other thread can get hold of the element first. -/
def takeOldest (channel : Channel α) : Step α (Except Absence α) :=
  match channel.refreshSendCache with
  | .error absence => ⟨.error absence, channel, []⟩
  | .ok looked =>
      let cursor := looked.receiveCursor
      let (value, memory) := looked.take cursor
      match value with
      | some value =>
          { result := .ok value
            state := looked.withMemory (memory.moveReceive cursor.advance)
            log := [.notified .sender] }
      | none => ⟨.error .empty, looked.withMemory memory, []⟩

/-- Receives without waiting. -/
def tryReceive (channel : Channel α) : Step α (Except TryReceiveError α) :=
  channel.takeOldest.mapResult fun
    | .ok value => .ok value
    | .error absence => .error absence.toError

/-- Receives into a register; the value that an arriving one displaces is
destroyed. -/
def receiveInto (channel : Channel α) (register : α) : Step α (Status × α) :=
  let taken := channel.takeOldest
  match taken.result with
  | .ok value => ⟨(.success, value), taken.state, taken.log ++ [.destroyed register]⟩
  | .error absence => ⟨(absence.toError.status, register), taken.state, taken.log⟩

/-! Dropping the ends. -/

/-- Destroys what was never received.  This happens when both ends are gone. -/
def free (channel : Channel α) : Step α Unit :=
  let positions := channel.unread
  let (values, memory) := channel.takeEach positions
  let notices := if positions.isEmpty then [] else [.ringFreed positions.length]
  { result := ()
    state := channel.withMemory memory
    log := values.toList.map .destroyed ++ notices.map .noted }

/-- The end that is dropped last takes the ring with it. -/
def freeIfAbandoned (channel : Channel α) : Step α Unit :=
  if channel.senderAlive || channel.receiverAlive then ⟨(), channel, []⟩ else channel.free

/-- Closes the channel and wakes whoever waits on it. -/
def shut (channel : Channel α) : Step α Unit :=
  ⟨(), channel.withMemory channel.close, [.notified .receiver, .notified .sender]⟩

def dropSender (channel : Channel α) : Step α Unit :=
  channel.shut.andThen fun _ shut => { shut with senderAlive := false }.freeIfAbandoned

def dropReceiver (channel : Channel α) : Step α Unit :=
  channel.shut.andThen fun _ shut => { shut with receiverAlive := false }.freeIfAbandoned

end Channel

end Handoff.Ring
