import Handoff.Ring.Channel

namespace Handoff.Ring

/-! A ring used by two threads at once.  A thread stands somewhere in its call, and
one step takes it over one access to the shared memory: a load, a store or a
compare-and-exchange of a cursor or of the closed flag, or an access to a slot.
What happens on a thread between two accesses belongs to the step before, so a
side is notified in the very step that gives it a reason to go on.  Any order of
the threads' steps is a run.
-/

/-- Where the sending thread stands, named for the access that comes next.
`cursor` is the send cursor as it was read, and `oldest` the receive cursor. -/
inductive SendStage (α : Type u) where
  /-- Outside a call, with the answer of the last one. -/
  | idle (last : Option (Except (TrySendError α) Unit))
  | readClosed (value : α)
  | readSend (value : α)
  | refresh (value : α) (cursor : Cursor)
  /-- In a full ring that overwrites: looking for the element to destroy. -/
  | inspect (value : α) (cursor : Cursor)
  | overtake (value : α) (cursor oldest : Cursor)
  | destroy (value : α) (cursor oldest : Cursor)
  | write (value : α) (cursor : Cursor)
  | publish (value : α) (cursor : Cursor)
  | gone

/-- Where the receiving thread stands. -/
inductive ReceiveStage (α : Type u) where
  | idle (last : Option (Except TryReceiveError α))
  | readReceive
  | readSend (oldest : Cursor)
  | readClosed (oldest : Cursor)
  /-- The flag was set: what was sent before that must be seen by now. -/
  | readSendAgain (oldest : Cursor)
  /-- In a ring that overwrites: keeping the sender from the element. -/
  | claim (oldest : Cursor)
  | take (oldest : Cursor)
  | release (oldest : Cursor) (value : α)
  | gone

/-- The shared ring, where each thread stands and what it remembers, what has
become of the elements so far, and what happened on the way.  Accepted elements
count from the step that moves the send cursor past them; received and discarded
ones from the step that moves the receive cursor. -/
structure Interleaving (α : Type u) where
  memory : Memory α
  overflow : Overflow
  receiveCache : Cursor := .start
  sendCache : Cursor := .start
  sending : SendStage α := .idle none
  receiving : ReceiveStage α := .idle none
  accepted : Array α := #[]
  received : Array α := #[]
  discarded : Array α := #[]
  log : Array (Event α) := #[]

namespace Interleaving

def ofChannel (channel : Channel α) : Interleaving α :=
  { memory := channel.toMemory
    overflow := channel.overflow
    receiveCache := channel.receiveCache
    sendCache := channel.sendCache }

/-- An idle thread drops its end: the channel closes, and both sides are told. -/
def shut (run : Interleaving α) : Interleaving α :=
  { run with
    memory := run.memory.close
    log := run.log ++ #[.notified .receiver, .notified .sender] }

/-! The sending thread. -/

def startSend (run : Interleaving α) (value : α) : Interleaving α :=
  match run.sending with
  | .idle _ => { run with sending := .readClosed value }
  | _ => run

def dropSender (run : Interleaving α) : Interleaving α :=
  match run.sending with
  | .idle _ => { run.shut with sending := .gone }
  | _ => run

def refuseSend (run : Interleaving α) (error : TrySendError α) : Interleaving α :=
  { run with sending := .idle (some (.error error)) }

/-- By the sender's memory of it, the ring has no room before `cursor`. -/
def seemsFull (run : Interleaving α) (cursor : Cursor) : Bool :=
  run.receiveCache.distanceTo cursor == run.memory.mask

def stepSender (run : Interleaving α) : Interleaving α :=
  match run.sending with
  | .idle _ | .gone => run
  | .readClosed value =>
      if run.memory.closed then run.refuseSend (.closed value)
      else { run with sending := .readSend value }
  | .readSend value =>
      let cursor := run.memory.sendCursor
      if run.seemsFull cursor then { run with sending := .refresh value cursor }
      else { run with sending := .write value cursor }
  | .refresh value cursor =>
      let looked := { run with receiveCache := run.memory.receiveCursor.position }
      if looked.seemsFull cursor then
        match run.overflow with
        | .wait => looked.refuseSend (.full value)
        | .overwrite => { looked with sending := .inspect value cursor }
      else { looked with sending := .write value cursor }
  | .inspect value cursor =>
      let oldest := run.memory.receiveCursor
      if oldest.isClaimed then run
      else if oldest.distanceTo cursor < run.memory.mask then
        { run with receiveCache := oldest, sending := .write value cursor }
      else { run with sending := .overtake value cursor oldest }
  | .overtake value cursor oldest =>
      match run.memory.exchangeReceive? oldest oldest.advance with
      | some memory =>
          { run with
            memory := memory
            sending := .destroy value cursor oldest
            discarded := run.discarded ++ (memory.peek oldest).toArray }
      | none => { run with sending := .inspect value cursor }
  | .destroy value cursor oldest =>
      let (destroyed, memory) := run.memory.take oldest
      { run with
        memory := memory
        receiveCache := oldest.advance
        sending := .write value cursor
        log :=
          run.log ++ destroyed.toArray.map .destroyed ++
            #[.noted (.oldestOverwritten oldest.toNat)] }
  | .write value cursor =>
      { run with memory := run.memory.write cursor value, sending := .publish value cursor }
  | .publish value cursor =>
      { run with
        memory := run.memory.moveSend cursor.advance
        sending := .idle (some (.ok ()))
        accepted := run.accepted.push value
        log := run.log.push (.notified .receiver) }

/-! The receiving thread. -/

def startReceive (run : Interleaving α) : Interleaving α :=
  match run.receiving with
  | .idle _ => { run with receiving := .readReceive }
  | _ => run

def dropReceiver (run : Interleaving α) : Interleaving α :=
  match run.receiving with
  | .idle _ => { run.shut with receiving := .gone }
  | _ => run

def refuseReceive (run : Interleaving α) (error : TryReceiveError) : Interleaving α :=
  { run with receiving := .idle (some (.error error)) }

/-- There is an element at `oldest`; a ring that overwrites has it claimed first. -/
def approach (run : Interleaving α) (oldest : Cursor) : Interleaving α :=
  match run.overflow with
  | .wait => { run with receiving := .take oldest }
  | .overwrite => { run with receiving := .claim oldest }

/-- By the receiver's memory of it, there is an element at `oldest`. -/
def seemsStocked (run : Interleaving α) (oldest : Cursor) : Bool :=
  let available := oldest.distanceTo run.sendCache
  available != 0 && available ≤ run.memory.mask

def stepReceiver (run : Interleaving α) : Interleaving α :=
  match run.receiving with
  | .idle _ | .gone => run
  | .readReceive =>
      let oldest := run.memory.receiveCursor
      if run.seemsStocked oldest then run.approach oldest
      else { run with receiving := .readSend oldest }
  | .readSend oldest =>
      let cursor := run.memory.sendCursor
      if cursor = oldest then { run with receiving := .readClosed oldest }
      else { run with sendCache := cursor }.approach oldest
  | .readClosed oldest =>
      if run.memory.closed then { run with receiving := .readSendAgain oldest }
      else run.refuseReceive .empty
  | .readSendAgain oldest =>
      let cursor := run.memory.sendCursor
      if cursor = oldest then run.refuseReceive .closed
      else { run with sendCache := cursor }.approach oldest
  | .claim oldest =>
      match run.memory.exchangeReceive? oldest oldest.claim with
      | some memory => { run with memory := memory, receiving := .take oldest }
      | none => run.refuseReceive .skipped
  | .take oldest =>
      let (value, memory) := run.memory.take oldest
      match value with
      | some value => { run with memory := memory, receiving := .release oldest value }
      | none => { run with memory := memory }.refuseReceive .empty
  | .release oldest value =>
      { run with
        memory := run.memory.moveReceive oldest.advance
        receiving := .idle (some (.ok value))
        received := run.received.push value
        log := run.log.push (.notified .sender) }

end Interleaving

end Handoff.Ring
