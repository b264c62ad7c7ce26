import Handoff.Event

namespace Handoff

/-! The strategies a channel is made with: what sending does when there is no room,
and how a blocking call passes the time between two attempts.
-/

inductive Overflow where
  | wait
  /-- Destroys the oldest element to make room. -/
  | overwrite
deriving DecidableEq

namespace Overflow

def name : Overflow → String
  | .wait => "WaitOnFull"
  | .overwrite => "OverwriteOnFull"

def overwrites : Overflow → Bool
  | .wait => false
  | .overwrite => true

end Overflow

inductive WaitStrategy where
  | busyLoop
  | yield
  | atomicWait
  /-- Lets a scripted peer act, and reports when a waiter is notified. -/
  | scripted
deriving DecidableEq

namespace WaitStrategy

def name : WaitStrategy → String
  | .busyLoop => "BusyLoop"
  | .yield => "Yield"
  | .atomicWait => "AtomicWait"
  | .scripted => "Scripted"

/-- Only a scripted strategy tells when a waiter is notified. -/
def reports (strategy : WaitStrategy) : Event α → Bool
  | .notified _ => strategy == .scripted
  | .destroyed _ | .noted _ => true

end WaitStrategy

end Handoff
