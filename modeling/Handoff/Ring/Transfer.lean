import Handoff.Ring.Interleaving

namespace Handoff.Ring

/-! A producer and a consumer on two threads.  The producer sends its values one
after the other, trying again while the ring is full, and then drops its end.
The consumer receives until the channel is closed and empty, or until it has
enough; then it waits for the ring to fill up and drops its end.  The threads
take turns, one step each.
-/

structure Transfer (α : Type u) where
  threads : Interleaving α
  /-- The values whose sending has not begun. -/
  unsent : List α
  rejected : Nat := 0
  /-- How many values are enough for the consumer. -/
  enough : Option Nat := none
  /-- The consumer has seen the end of the channel. -/
  ended : Bool := false

namespace Transfer

def sendFirst (transfer : Transfer α) : Transfer α :=
  match transfer.unsent with
  | value :: rest =>
      { transfer with threads := transfer.threads.startSend value, unsent := rest }
  | [] => { transfer with threads := transfer.threads.dropSender }

def producerTurn (transfer : Transfer α) : Transfer α :=
  match transfer.threads.sending with
  | .idle (some (.error (.full value))) =>
      { transfer with threads := transfer.threads.startSend value }
  | .idle (some (.error (.closed _))) =>
      { transfer with rejected := transfer.rejected + 1 }.sendFirst
  | .idle _ => transfer.sendFirst
  | _ => { transfer with threads := transfer.threads.stepSender }

def hasEnough (transfer : Transfer α) : Bool :=
  match transfer.enough with
  | some count => count ≤ transfer.threads.received.size
  | none => false

def consumerTurn (transfer : Transfer α) : Transfer α :=
  match transfer.threads.receiving with
  | .idle (some (.error .closed)) => { transfer with ended := true }
  | .idle _ =>
      if transfer.hasEnough then
        if transfer.threads.memory.isFull then
          { transfer with threads := transfer.threads.dropReceiver }
        else transfer
      else { transfer with threads := transfer.threads.startReceive }
  | _ => { transfer with threads := transfer.threads.stepReceiver }

def round (transfer : Transfer α) : Transfer α :=
  transfer.producerTurn.consumerTurn

/-- Both threads have nothing left to do. -/
def isOver (transfer : Transfer α) : Bool :=
  match transfer.threads.sending, transfer.threads.receiving with
  | .gone, .gone => true
  | .gone, _ => transfer.ended
  | _, _ => false

def run : Nat → Transfer α → Transfer α
  | 0, transfer => transfer
  | rounds + 1, transfer => if transfer.isOver then transfer else run rounds transfer.round

/-- More rounds than any value needs to pass from the producer to the consumer. -/
def roundsPerValue : Nat := 32

def complete (transfer : Transfer α) : Transfer α :=
  run (roundsPerValue * (transfer.unsent.length + 2)) transfer

end Transfer

/-- What the two threads report when both have ended. -/
structure Delivery (α : Type u) where
  received : List α
  ending : Option ReceiveError
  accepted : Nat
  rejected : Nat

def Transfer.delivery (transfer : Transfer α) : Delivery α :=
  { received := transfer.threads.received.toList
    ending := if transfer.ended then some .closed else none
    accepted := transfer.threads.accepted.size
    rejected := transfer.rejected }

def Channel.deliver (requested : Nat) (values : List α) (enough : Option Nat) :
    Except CreationError (Delivery α) :=
  (allocate referenceBytes .wait requested).map fun created =>
    (Transfer.complete
      { threads := .ofChannel created.state, unsent := values, enough := enough }).delivery

/-- What is left to say of a run that overwrites: how many values were accepted,
whether they were received in the order of sending, the last one received, and
how many were destroyed, be it by the sender, by the consumer after receiving
them, or with the ring. -/
structure Survey where
  accepted : Nat
  ordered : Bool
  last : Option Nat
  destroyed : Nat
deriving DecidableEq

def isAscending : List Nat → Bool
  | first :: second :: rest => first < second && isAscending (second :: rest)
  | _ => true

def Transfer.survey (transfer : Transfer Nat) : Survey :=
  let threads := transfer.threads
  let overwritten := (Tally.countAll {} threads.log.toList).destroyed
  { accepted := threads.accepted.size
    ordered := isAscending threads.received.toList
    last := threads.received.back?
    destroyed := overwritten + threads.received.size + threads.memory.contents.length }

def Channel.surveyOverwriting (requested count : Nat) : Except CreationError Survey :=
  (allocate referenceBytes .overwrite requested).map fun created =>
    (Transfer.complete
      { threads := .ofChannel created.state, unsent := List.range count }).survey

end Handoff.Ring
