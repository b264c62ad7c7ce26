namespace Handoff

/-! The outcome of an operation in one word.  Every error of the library reduces
to a status, and the status alone decides whether trying again can help.
-/

inductive Status where
  | success
  | channelFull
  | channelEmpty
  | skippedByOverwrite
  | channelClosed
  | receiverClosed
  | senderClosed
deriving DecidableEq

namespace Status

def all : List Status :=
  [.success, .channelFull, .channelEmpty, .skippedByOverwrite, .channelClosed,
    .receiverClosed, .senderClosed]

/-- The identifier a status is known by. -/
def name : Status → String
  | .success => "Success"
  | .channelFull => "ChannelFull"
  | .channelEmpty => "ChannelEmpty"
  | .skippedByOverwrite => "SkipDueToOverwrite"
  | .channelClosed => "ChannelClosed"
  | .receiverClosed => "ReceiverClosed"
  | .senderClosed => "SenderClosed"

/-- The sentence a person reads. -/
def message : Status → String
  | .success => "success"
  | .channelFull => "channel full"
  | .channelEmpty => "channel empty"
  | .skippedByOverwrite => "element skipped due to overwrite"
  | .channelClosed => "channel closed"
  | .receiverClosed => "receiver closed"
  | .senderClosed => "sender closed"

def ofName? (name : String) : Option Status :=
  all.find? fun status => status.name == name

def isSuccess : Status → Bool
  | .success => true
  | _ => false

/-- A retryable failure may go away by itself: room appears, an element
arrives, or a newer element stands where the skipped one was.  The other
failures are final. -/
def isRetryable : Status → Bool
  | .channelFull | .channelEmpty | .skippedByOverwrite => true
  | .success | .channelClosed | .receiverClosed | .senderClosed => false

end Status

/-- An error that reduces to a status, has a sentence for people and an
identifier that hides any value it carries. -/
class Failure (ε : Type u) where
  status : ε → Status
  message : ε → String
  label : ε → String

/-- No error here was caused by another one. -/
def Failure.hasCause [Failure ε] (_ : ε) : Bool :=
  false

end Handoff
