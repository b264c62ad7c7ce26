import Handoff.OneShot.Channel
import Handoff.Text.Record

namespace Handoff.OneShot

/-! What can be done to a one-shot channel without waiting, written as data, and
how it is answered.  An end that was dropped answers only that it is gone.
-/

/-- What the ends report about themselves: whether they are closed.  An end that
was dropped reports nothing. -/
structure EndReports where
  sender : Option Bool
  receiver : Option Bool
deriving DecidableEq

/-- `unknown` is anything that a channel does not offer, under the name it was
asked for. -/
inductive Action (α : Type u) where
  | send (value : α)
  | tryReceive
  | receiveInto (register : α)
  | dropSender
  | dropReceiver
  | describe
  | unknown (name : String)
deriving DecidableEq

/-- `gone` answers for an end that was dropped, and `refused` for what is not
offered. -/
inductive Answer (α : Type u) where
  | done
  | notSent (error : SendError α)
  | received (value : α)
  | notReceived (error : TryReceiveError)
  | register (status : Status) (content : α)
  | described (sender receiver : Option Text.Record)
  | gone
  | refused
deriving DecidableEq

namespace Channel

def reports (channel : Channel α) : EndReports :=
  { sender := if channel.senderAlive then some channel.senderClosed else none
    receiver := if channel.receiverAlive then some channel.receiverClosed else none }

def describeSender (channel : Channel α) : Text.Record :=
  ⟨"Sender", [("sent", Text.Record.ofBool channel.hasSent)]⟩

def describeReceiver (channel : Channel α) : Text.Record :=
  ⟨"Receiver", [("received", Text.Record.ofBool channel.hasReceived)]⟩

def ifSender (channel : Channel α) (act : Channel α → Step α (Answer α)) : Step α (Answer α) :=
  if channel.senderAlive then act channel else ⟨.gone, channel, []⟩

def ifReceiver (channel : Channel α) (act : Channel α → Step α (Answer α)) : Step α (Answer α) :=
  if channel.receiverAlive then act channel else ⟨.gone, channel, []⟩

def perform (channel : Channel α) : Action α → Step α (Answer α)
  | .send value =>
      channel.ifSender fun channel =>
        (channel.send value).mapResult fun
          | .ok () => .done
          | .error error => .notSent error
  | .tryReceive =>
      channel.ifReceiver fun channel =>
        channel.tryReceive.mapResult fun
          | .ok value => .received value
          | .error error => .notReceived error
  | .receiveInto register =>
      channel.ifReceiver fun channel =>
        (channel.receiveInto register).mapResult fun (status, content) =>
          .register status content
  | .dropSender => channel.ifSender fun channel => channel.dropSender.mapResult fun _ => .done
  | .dropReceiver =>
      channel.ifReceiver fun channel => channel.dropReceiver.mapResult fun _ => .done
  | .describe =>
      { result :=
          .described
            (if channel.senderAlive then some channel.describeSender else none)
            (if channel.receiverAlive then some channel.describeReceiver else none)
        state := channel
        log := [] }
  | .unknown _ => ⟨.refused, channel, []⟩

end Channel

end Handoff.OneShot
