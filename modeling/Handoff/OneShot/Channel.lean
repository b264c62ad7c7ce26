import Handoff.Event
import Handoff.OneShot.Error
import Handoff.Outcome

namespace Handoff.OneShot

/-! A channel for a single value.  One shared word tells how far the value has
come; each end also remembers for itself that it has done its part.
-/

/-- How far the value has come. -/
inductive Stage where
  | unsent
  | sent
  | received
  | disconnected
deriving DecidableEq

structure Channel (α : Type u) where
  stage : Stage := .unsent
  slot : Option α := none
  /-- Whether a value was ever written over another one or looked for in the
  vacant slot. -/
  faulty : Bool := false
  /-- The sender's own memory of having sent. -/
  hasSent : Bool := false
  /-- The receiver's own memory of having received. -/
  hasReceived : Bool := false
  senderAlive : Bool := true
  receiverAlive : Bool := true
deriving DecidableEq

namespace Channel

abbrev Step (α : Type u) (ρ : Type v) := Outcome (Channel α) (Event α) ρ

def write (channel : Channel α) (value : α) : Channel α :=
  { channel with
    slot := some value
    faulty := channel.faulty || channel.slot.isSome }

def take (channel : Channel α) : Option α × Channel α :=
  (channel.slot, { channel with slot := none, faulty := channel.faulty || channel.slot.isNone })

/-- Sends the one value.  Whether anybody is left to receive it does not matter. -/
def send (channel : Channel α) (value : α) : Step α (Except (SendError α) Unit) :=
  if channel.hasSent then ⟨.error ⟨value⟩, channel, []⟩
  else
    { result := .ok ()
      state := { channel.write value with stage := .sent, hasSent := true }
      log := [.notified .receiver] }

/-- Receives the value, if it was sent and not yet received. -/
def tryReceive (channel : Channel α) : Step α (Except TryReceiveError α) :=
  if channel.hasReceived then ⟨.error .received, channel, []⟩
  else
    match channel.stage with
    | .unsent => ⟨.error .empty, channel, []⟩
    | .disconnected => ⟨.error .closed, channel, []⟩
    | .received => ⟨.error .received, channel, []⟩
    | .sent =>
        let (value, vacated) := channel.take
        match value with
        | some value =>
            { result := .ok value
              state := { vacated with stage := .received, hasReceived := true }
              log := [] }
        | none => ⟨.error .received, vacated, []⟩

/-- Receives into a register; the value that an arriving one displaces is
destroyed. -/
def receiveInto (channel : Channel α) (register : α) : Step α (Status × α) :=
  let tried := channel.tryReceive
  match tried.result with
  | .ok value => ⟨(.success, value), tried.state, tried.log ++ [.destroyed register]⟩
  | .error error => ⟨(error.status, register), tried.state, tried.log⟩

/-- What a blocked receiver waits for. -/
def ready (channel : Channel α) : Bool :=
  channel.stage != .unsent

/-- The sender counts as closed once it has sent. -/
def senderClosed (channel : Channel α) : Bool :=
  channel.hasSent

/-- The receiver counts as closed once nothing can arrive any more. -/
def receiverClosed (channel : Channel α) : Bool :=
  channel.hasReceived || channel.stage == .disconnected

/-- Destroys a value that was sent and never received.  This happens when both
ends are gone. -/
def free (channel : Channel α) : Step α Unit :=
  match channel.stage with
  | .sent =>
      let (value, vacated) := channel.take
      { result := ()
        state := vacated
        log := value.toList.map .destroyed ++ [.noted .valueUnreceived] }
  | .unsent | .received | .disconnected => ⟨(), channel, []⟩

def freeIfAbandoned (channel : Channel α) : Step α Unit :=
  if channel.senderAlive || channel.receiverAlive then ⟨(), channel, []⟩ else channel.free

/-- Tells the receiver that no value will come. -/
def disconnect (channel : Channel α) : Step α Unit :=
  if channel.hasSent then ⟨(), channel, []⟩
  else
    { result := ()
      state := { channel with stage := .disconnected }
      log := [.notified .receiver, .noted .senderLeftUnsent] }

def dropSender (channel : Channel α) : Step α Unit :=
  channel.disconnect.andThen fun _ left => { left with senderAlive := false }.freeIfAbandoned

def dropReceiver (channel : Channel α) : Step α Unit :=
  { channel with receiverAlive := false }.freeIfAbandoned

end Channel

end Handoff.OneShot
