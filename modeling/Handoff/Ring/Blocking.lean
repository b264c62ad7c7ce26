import Handoff.Ring.Action
import Handoff.Script

namespace Handoff.Ring

/-! Sending and receiving that wait.  A blocked call tries, waits for one group of
the peer's actions, and tries again.  When the script has no group left, the peer
drops its end, and the next attempt is the last one.
-/

abbrev ChannelEntry (α : Type u) := Entry α (Action α) (Answer α) EndReports

namespace Channel

abbrev Blocking (α : Type u) (ρ : Type v) := Outcome (Channel α) (ChannelEntry α) ρ

def asEntries (step : Step α ρ) : Blocking α ρ :=
  step.mapLog fun log => log.map .event

/-- What the side waits for. -/
def ready (channel : Channel α) : Side → Bool
  | .sender => channel.sendReady
  | .receiver => channel.receiveReady

/-- A peer cannot drop the end that is blocked. -/
def permits (blocked : Side) : Action α → Bool
  | .dropSender => blocked != .sender
  | .dropReceiver => blocked != .receiver
  | _ => true

/-- An action of the peer, who acts while the call on the other side is blocked. -/
def performAsPeer (blocked : Side) (channel : Channel α) (action : Action α) :
    Blocking α Unit :=
  let step := if permits blocked action then channel.perform action else ⟨.refused, channel, []⟩
  { result := ()
    state := step.state
    log := step.log.map .event ++ [.acted action step.result step.state.reports] }

def performGroup (blocked : Side) (channel : Channel α) : List (Action α) → Blocking α Unit
  | [] => ⟨(), channel, []⟩
  | action :: rest =>
      (performAsPeer blocked channel action).andThen fun _ channel =>
        performGroup blocked channel rest

/-- One wait of a blocked call. -/
def await (blocked : Side) (channel : Channel α) (group : List (Action α)) : Blocking α Unit :=
  let acted := performGroup blocked channel group
  { acted with
    log :=
      .waiting blocked (channel.ready blocked) :: acted.log ++
        [.resumed blocked (acted.state.ready blocked)] }

/-- The last attempt, after the receiver was dropped. -/
def sendLast (channel : Channel α) (value : α) : Blocking α (Except (SendError α) Unit) :=
  asEntries <| (channel.trySend value).mapResult fun
    | .ok () => .ok ()
    | .error error => .error ⟨error.value⟩

/-- Sends, and waits while the ring is full. -/
def send (channel : Channel α) (value : α) (script : List (List (Action α))) :
    Blocking α (Except (SendError α) Unit) :=
  let tried := asEntries (channel.trySend value)
  match tried.result, script with
  | .ok (), _ => { tried with result := .ok () }
  | .error (.closed value), _ => { tried with result := .error ⟨value⟩ }
  | .error (.full value), [] =>
      tried.andThen fun _ channel =>
        (await .sender channel [.dropReceiver]).andThen fun _ channel => channel.sendLast value
  | .error (.full value), group :: rest =>
      tried.andThen fun _ channel =>
        (await .sender channel group).andThen fun _ channel => channel.send value rest

/-- The last attempt, after the sender was dropped. -/
def receiveLast (channel : Channel α) : Blocking α (Except ReceiveError α) :=
  asEntries <| channel.takeOldest.mapResult fun
    | .ok value => .ok value
    | .error _ => .error .closed

/-- Receives, and waits while the ring is empty. -/
def receive (channel : Channel α) (script : List (List (Action α))) :
    Blocking α (Except ReceiveError α) :=
  let tried := asEntries channel.takeOldest
  match tried.result, script with
  | .ok value, _ => { tried with result := .ok value }
  | .error .closed, _ => { tried with result := .error .closed }
  | .error .empty, [] =>
      tried.andThen fun _ channel =>
        (await .receiver channel [.dropSender]).andThen fun _ channel => channel.receiveLast
  | .error .empty, group :: rest =>
      tried.andThen fun _ channel =>
        (await .receiver channel group).andThen fun _ channel => channel.receive rest

end Channel

/-- Everything that can be asked of a channel.  A call that may wait comes with the
script of its peer. -/
inductive Call (α : Type u) where
  | act (action : Action α)
  | send (value : α) (script : List (List (Action α)))
  | receive (script : List (List (Action α)))
deriving DecidableEq

inductive Reply (α : Type u) where
  | plain (answer : Answer α)
  | sent (result : Except (SendError α) Unit)
  | received (result : Except ReceiveError α)

namespace Channel

/-- An end that was dropped cannot be called. -/
def call (channel : Channel α) : Call α → Blocking α (Reply α)
  | .act action => asEntries ((channel.perform action).mapResult .plain)
  | .send value script =>
      if channel.senderAlive then (channel.send value script).mapResult .sent
      else ⟨.plain .gone, channel, []⟩
  | .receive script =>
      if channel.receiverAlive then (channel.receive script).mapResult .received
      else ⟨.plain .gone, channel, []⟩

/-- Whether a call would wait forever on a thread of its own, with nobody else to
act. -/
def wouldBlock (channel : Channel α) : Call α → Bool
  | .act _ => false
  | .send .. =>
      channel.senderAlive && channel.overflow == .wait && channel.isFull && !channel.closed
  | .receive _ => channel.receiverAlive && channel.isDrained && !channel.closed

end Channel

end Handoff.Ring
