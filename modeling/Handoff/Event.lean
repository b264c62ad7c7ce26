namespace Handoff

/-! What can be seen happening inside the library: a value is destroyed, a waiter
is notified, a notice is written.  Operations return these in the order in which
they happen.
-/

/-- The two ends of a channel.  As a waiter, a side is the one that blocks
there. -/
inductive Side where
  | sender
  | receiver
deriving DecidableEq

/-- What the library reports about itself. -/
inductive Notice where
  | ringCreated (requested size : Nat) (overwrites : Bool)
  | oldestOverwritten (cursor : Nat)
  | ringFreed (unread : Nat)
  | senderLeftUnsent
  | valueUnreceived
deriving DecidableEq

inductive Notice.Level where
  | debug
  | trace
deriving DecidableEq

inductive Notice.Field where
  | number (value : Nat)
  | flag (value : Bool)
deriving DecidableEq

namespace Notice

def level : Notice → Level
  | .ringCreated .. | .senderLeftUnsent => .debug
  | .oldestOverwritten _ | .ringFreed _ | .valueUnreceived => .trace

/-- The part of the library that speaks. -/
def target : Notice → String
  | .ringCreated .. | .oldestOverwritten _ | .ringFreed _ => "lite_channel::spsc"
  | .senderLeftUnsent | .valueUnreceived => "lite_channel::oneshot"

def message : Notice → String
  | .ringCreated .. => "spsc channel created"
  | .oldestOverwritten _ => "spsc overwrote oldest element"
  | .ringFreed _ => "spsc interior freed with unread elements"
  | .senderLeftUnsent => "oneshot sender dropped without sending"
  | .valueUnreceived => "oneshot value dropped unreceived"

def fields : Notice → List (String × Field)
  | .ringCreated requested size overwrites =>
      [("requested", .number requested), ("ring_size", .number size),
        ("overwrite", .flag overwrites)]
  | .oldestOverwritten cursor => [("cursor", .number cursor)]
  | .ringFreed unread => [("unread", .number unread)]
  | .senderLeftUnsent | .valueUnreceived => []

end Notice

def Notice.Level.name : Notice.Level → String
  | .debug => "DEBUG"
  | .trace => "TRACE"

inductive Event (α : Type u) where
  | destroyed (value : α)
  | notified (waiter : Side)
  | noted (notice : Notice)
deriving DecidableEq

/-- How many events of each kind a log holds. -/
structure Tally where
  destroyed : Nat := 0
  noted : Nat := 0
  receiverNotified : Nat := 0
  senderNotified : Nat := 0
deriving DecidableEq

namespace Tally

def count (tally : Tally) : Event α → Tally
  | .destroyed _ => { tally with destroyed := tally.destroyed + 1 }
  | .noted _ => { tally with noted := tally.noted + 1 }
  | .notified .receiver => { tally with receiverNotified := tally.receiverNotified + 1 }
  | .notified .sender => { tally with senderNotified := tally.senderNotified + 1 }

def countAll (tally : Tally) (log : List (Event α)) : Tally :=
  log.foldl count tally

end Tally

end Handoff
