import Handoff.Status

namespace Handoff.OneShot

/-! Why sending or receiving through a one-shot channel can fail. -/

/-- A value was sent before; this one comes back. -/
structure SendError (α : Type u) where
  value : α
deriving DecidableEq, BEq

instance : Failure (SendError α) where
  status _ := .senderClosed
  message _ := "value already sent"
  label _ := "SendError(..)"

/-- `received` means that the value was received before, and `closed` that the
sender left without sending one. -/
inductive TryReceiveError where
  | empty
  | received
  | closed
deriving DecidableEq

namespace TryReceiveError

def all : List TryReceiveError := [.empty, .received, .closed]

def status : TryReceiveError → Status
  | .empty => .channelEmpty
  | .received => .receiverClosed
  | .closed => .channelClosed

instance : Failure TryReceiveError where
  status := status
  message
    | .empty => "channel empty"
    | .received => "value already received"
    | .closed => "channel closed"
  label
    | .empty => "Empty"
    | .received => "ReceiverClosed"
    | .closed => "Closed"

end TryReceiveError

inductive ReceiveError where
  | received
  | closed
deriving DecidableEq

namespace ReceiveError

def all : List ReceiveError := [.received, .closed]

def toTryReceiveError : ReceiveError → TryReceiveError
  | .received => .received
  | .closed => .closed

instance : Failure ReceiveError where
  status error := error.toTryReceiveError.status
  message error := Failure.message error.toTryReceiveError
  label error := Failure.label error.toTryReceiveError

end ReceiveError

end Handoff.OneShot
