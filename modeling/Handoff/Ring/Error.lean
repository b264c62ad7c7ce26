import Handoff.Status

namespace Handoff.Ring

/-! Why sending into a ring or receiving from it can fail.  A failed send hands the
value back inside its error.
-/

inductive TrySendError (α : Type u) where
  | full (value : α)
  | closed (value : α)
deriving DecidableEq, BEq

namespace TrySendError

def value : TrySendError α → α
  | .full value | .closed value => value

def isFull : TrySendError α → Bool
  | .full _ => true
  | .closed _ => false

def isClosed : TrySendError α → Bool
  | .full _ => false
  | .closed _ => true

/-- The other failure with the same value. -/
def sibling : TrySendError α → TrySendError α
  | .full value => .closed value
  | .closed value => .full value

def status : TrySendError α → Status
  | .full _ => .channelFull
  | .closed _ => .channelClosed

instance : Failure (TrySendError α) where
  status := status
  message error := error.status.message
  label
    | .full _ => "Full(..)"
    | .closed _ => "Closed(..)"

end TrySendError

/-- The receiver is gone, and the value comes back. -/
structure SendError (α : Type u) where
  value : α
deriving DecidableEq, BEq

instance : Failure (SendError α) where
  status _ := .channelClosed
  message _ := "sending on a closed channel"
  label _ := "SendError(..)"

/-- `skipped` means that the oldest element was overwritten while it was being
claimed; a newer one can be received. -/
inductive TryReceiveError where
  | empty
  | skipped
  | closed
deriving DecidableEq

namespace TryReceiveError

def all : List TryReceiveError := [.empty, .skipped, .closed]

def status : TryReceiveError → Status
  | .empty => .channelEmpty
  | .skipped => .skippedByOverwrite
  | .closed => .channelClosed

instance : Failure TryReceiveError where
  status := status
  message error := error.status.message
  label
    | .empty => "Empty"
    | .skipped => "SkipDueToOverwrite"
    | .closed => "Closed"

end TryReceiveError

/-- The sender is gone and everything it sent has been received. -/
inductive ReceiveError where
  | closed
deriving DecidableEq

namespace ReceiveError

def all : List ReceiveError := [.closed]

instance : Failure ReceiveError where
  status _ := .channelClosed
  message _ := "receiving on a closed channel"
  label _ := "RecvError"

end ReceiveError

end Handoff.Ring
