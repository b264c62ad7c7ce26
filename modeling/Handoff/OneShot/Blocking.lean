import Handoff.OneShot.Action
import Handoff.Script

namespace Handoff.OneShot

/-! Receiving that waits.  The peer acts in groups, as it does on a ring channel;
it cannot drop the receiver, which is blocked, and when the script has no group
left it drops the sender.
-/

abbrev ChannelEntry (α : Type u) := Entry α (Action α) (Answer α) EndReports

namespace Channel

abbrev Blocking (α : Type u) (ρ : Type v) := Outcome (Channel α) (ChannelEntry α) ρ

def asEntries (step : Step α ρ) : Blocking α ρ :=
  step.mapLog fun log => log.map .event

/-- The receiver is blocked, and cannot be dropped from under itself. -/
def permits : Action α → Bool
  | .dropReceiver => false
  | _ => true

def performAsPeer (channel : Channel α) (action : Action α) : Blocking α Unit :=
  let step := if permits action then channel.perform action else ⟨.refused, channel, []⟩
  { result := ()
    state := step.state
    log := step.log.map .event ++ [.acted action step.result step.state.reports] }

def performGroup (channel : Channel α) : List (Action α) → Blocking α Unit
  | [] => ⟨(), channel, []⟩
  | action :: rest =>
      (channel.performAsPeer action).andThen fun _ channel => performGroup channel rest

/-- One wait of a blocked receiver. -/
def await (channel : Channel α) (group : List (Action α)) : Blocking α Unit :=
  let acted := channel.performGroup group
  { acted with
    log :=
      .waiting .receiver channel.ready :: acted.log ++ [.resumed .receiver acted.state.ready] }

/-- The last attempt, after the sender was dropped. -/
def receiveLast (channel : Channel α) : Blocking α (Except ReceiveError α) :=
  asEntries <| channel.tryReceive.mapResult fun
    | .ok value => .ok value
    | .error .received => .error .received
    | .error .closed | .error .empty => .error .closed

/-- Receives, and waits while nothing was sent. -/
def receive (channel : Channel α) (script : List (List (Action α))) :
    Blocking α (Except ReceiveError α) :=
  let tried := asEntries channel.tryReceive
  match tried.result, script with
  | .ok value, _ => { tried with result := .ok value }
  | .error .received, _ => { tried with result := .error .received }
  | .error .closed, _ => { tried with result := .error .closed }
  | .error .empty, [] =>
      tried.andThen fun _ channel =>
        (channel.await [.dropSender]).andThen fun _ channel => channel.receiveLast
  | .error .empty, group :: rest =>
      tried.andThen fun _ channel =>
        (channel.await group).andThen fun _ channel => channel.receive rest

end Channel

/-- Everything that can be asked of a channel.  A call that may wait comes with the
script of its peer. -/
inductive Call (α : Type u) where
  | act (action : Action α)
  | receive (script : List (List (Action α)))
deriving DecidableEq

inductive Reply (α : Type u) where
  | plain (answer : Answer α)
  | received (result : Except ReceiveError α)

namespace Channel

/-- An end that was dropped cannot be called. -/
def call (channel : Channel α) : Call α → Blocking α (Reply α)
  | .act action => asEntries ((channel.perform action).mapResult .plain)
  | .receive script =>
      if channel.receiverAlive then (channel.receive script).mapResult .received
      else ⟨.plain .gone, channel, []⟩

/-- Whether a call would wait forever on a thread of its own: a sender that exists
and has not sent could still send, but not from the thread that waits. -/
def wouldBlock (channel : Channel α) : Call α → Bool
  | .act _ => false
  | .receive _ => channel.receiverAlive && channel.senderAlive && !channel.hasSent

end Channel

end Handoff.OneShot
