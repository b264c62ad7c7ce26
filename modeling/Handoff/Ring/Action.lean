import Handoff.Ring.Channel
import Handoff.Text.Record

namespace Handoff.Ring

/-! What can be done to a channel without waiting, written as data, and how it is
answered.  An end that was dropped answers only that it is gone.
-/

/-- What the sender's queries report. -/
structure SenderReport where
  length : Nat
  freeSlots : Nat
  isEmpty : Bool
  isFull : Bool
  isClosed : Bool
deriving DecidableEq

structure ReceiverReport where
  length : Nat
  isEmpty : Bool
  isClosed : Bool
deriving DecidableEq

/-- An end that was dropped reports nothing. -/
structure EndReports where
  sender : Option SenderReport
  receiver : Option ReceiverReport
deriving DecidableEq

namespace Channel

def senderReport (channel : Channel α) : SenderReport :=
  { length := channel.length
    freeSlots := channel.freeSlots
    isEmpty := channel.isEmpty
    isFull := channel.isFull
    isClosed := channel.closed }

def receiverReport (channel : Channel α) : ReceiverReport :=
  { length := channel.length
    isEmpty := channel.isDrained
    isClosed := channel.closed }

def reports (channel : Channel α) : EndReports :=
  { sender := if channel.senderAlive then some channel.senderReport else none
    receiver := if channel.receiverAlive then some channel.receiverReport else none }

def describe (channel : Channel α) (name : String) : Text.Record :=
  { name := name
    fields :=
      [("closed", Text.Record.ofBool channel.closed),
        ("len", Text.Record.ofNat channel.length),
        ("capacity", Text.Record.ofNat channel.capacity)] }

def describeDrain (channel : Channel α) : Text.Record :=
  { name := "Drain", fields := [("len", Text.Record.ofNat channel.length)] }

/-- Sends the first value of a feed, if there is one and the sender exists.
Whether it is accepted is not asked. -/
def sendNext (channel : Channel α) : List α → Step α Unit
  | [] => ⟨(), channel, []⟩
  | value :: _ =>
      if channel.senderAlive then (channel.trySend value).mapResult fun _ => ()
      else ⟨(), channel, []⟩

end Channel

/-- A drain on its way: what it has received so far, and what is still to be sent
while it goes on. -/
structure Drain (α : Type u) where
  channel : Channel α
  feed : List α
  items : Array α
  log : Array (Event α)

namespace Drain

/-- Receives one element and then sends the next value of the feed.  On an empty
channel nothing happens. -/
def next (drain : Drain α) : Drain α :=
  let taken := drain.channel.takeOldest
  match taken.result with
  | .error _ => { drain with channel := taken.state }
  | .ok value =>
      let fed := taken.state.sendNext drain.feed
      { channel := fed.state
        feed := drain.feed.tail
        items := drain.items.push value
        log := drain.log ++ taken.log ++ fed.log }

def run : Nat → Drain α → Drain α
  | 0, drain => drain
  | count + 1, drain => run count drain.next

/-- No drain can yield more than what the channel holds and what it is fed. -/
def bound (channel : Channel α) (limit : Option Nat) (feed : List α) : Nat :=
  let most := channel.length + feed.length
  match limit with
  | some limit => min limit most
  | none => most

end Drain

/-- The hints are lower bounds on how many elements the drain would still yield. -/
structure Drained (α : Type u) where
  items : List α
  hintBefore : Nat
  shownBefore : Text.Record
  hintAfter : Nat
deriving DecidableEq

/-- Receives until the channel is empty or `limit` elements were taken, and sends a
value of the feed after each. -/
def Channel.drain (channel : Channel α) (limit : Option Nat) (feed : List α) :
    Channel.Step α (Drained α) :=
  let ended := Drain.run (Drain.bound channel limit feed) ⟨channel, feed, #[], #[]⟩
  { result :=
      { items := ended.items.toList
        hintBefore := channel.length
        shownBefore := channel.describeDrain
        hintAfter := ended.channel.length }
    state := ended.channel
    log := ended.log.toList }

/-- `unknown` is anything that a channel does not offer, under the name it was
asked for. -/
inductive Action (α : Type u) where
  | trySend (value : α)
  | tryReceive
  | receiveInto (register : α)
  | drain (limit : Option Nat) (feed : List α)
  | dropSender
  | dropReceiver
  | describe
  | unknown (name : String)
deriving DecidableEq

/-- `gone` answers for an end that was dropped, and `refused` for what is not
offered. -/
inductive Answer (α : Type u) where
  | done
  | notSent (error : TrySendError α)
  | received (value : α)
  | notReceived (error : TryReceiveError)
  | register (status : Status) (content : α)
  | drained (result : Drained α)
  | described (sender receiver : Option Text.Record)
  | gone
  | refused
deriving DecidableEq

namespace Channel

def ifSender (channel : Channel α) (act : Channel α → Step α (Answer α)) : Step α (Answer α) :=
  if channel.senderAlive then act channel else ⟨.gone, channel, []⟩

def ifReceiver (channel : Channel α) (act : Channel α → Step α (Answer α)) : Step α (Answer α) :=
  if channel.receiverAlive then act channel else ⟨.gone, channel, []⟩

def perform (channel : Channel α) : Action α → Step α (Answer α)
  | .trySend value =>
      channel.ifSender fun channel =>
        (channel.trySend value).mapResult fun
          | .ok () => .done
          | .error error => .notSent error
  | .tryReceive =>
      channel.ifReceiver fun channel =>
        channel.tryReceive.mapResult fun
          | .ok value => .received value
          | .error error => .notReceived error
  | .receiveInto register =>
      channel.ifReceiver fun channel =>
        (channel.receiveInto register).mapResult fun (status, content) =>
          .register status content
  | .drain limit feed =>
      channel.ifReceiver fun channel => (channel.drain limit feed).mapResult .drained
  | .dropSender => channel.ifSender fun channel => channel.dropSender.mapResult fun _ => .done
  | .dropReceiver =>
      channel.ifReceiver fun channel => channel.dropReceiver.mapResult fun _ => .done
  | .describe =>
      { result :=
          .described
            (if channel.senderAlive then some (channel.describe "Sender") else none)
            (if channel.receiverAlive then some (channel.describe "Receiver") else none)
        state := channel
        log := [] }
  | .unknown _ => ⟨.refused, channel, []⟩

end Channel

end Handoff.Ring
