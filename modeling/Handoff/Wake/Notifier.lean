import Handoff.Text.Record
import Handoff.Wake.Parker

namespace Handoff.Wake

/-! Notifying a thread that waits for a condition.  The notifier remembers one
notification, so it does not matter whether that comes before or after the thread
decides to wait.
-/

inductive Signal where
  /-- Nobody waits and nothing was notified. -/
  | empty
  /-- A thread has registered and may be parked. -/
  | waiting
  | notified
deriving DecidableEq

def Signal.number : Signal → Nat
  | .empty => 0
  | .waiting => 1
  | .notified => 2

/-- A notifier shows nothing but its signal. -/
def Signal.describe (signal : Signal) : Text.Record :=
  ⟨"SingleWaiterNotify", [("state", Text.Record.ofNat signal.number)]⟩

/-- Only one thread ever waits, so there is only one handle. -/
inductive WaiterHandle where
  | waiter
deriving DecidableEq

structure Notifier where
  signal : Signal := .empty
  parker : Parker WaiterHandle := {}
deriving DecidableEq

namespace Notifier

/-! Each of the following touches the signal once. -/

def exchange (notifier : Notifier) (signal : Signal) : Signal × Notifier :=
  (notifier.signal, { notifier with signal := signal })

/-- Replaces one signal by another, and leaves any third as it is. -/
def replace (notifier : Notifier) (expected desired : Signal) : Notifier :=
  if notifier.signal = expected then { notifier with signal := desired } else notifier

/-- Leaves a notification.  If the waiter had registered, its handle is taken and
returned, to be unparked. -/
def notifyOne (notifier : Notifier) : Option WaiterHandle × Notifier :=
  let (before, notified) := notifier.exchange .notified
  if before = .waiting then
    let (handle, parker) := notified.parker.take
    (handle, { notified with parker := parker })
  else (none, notified)

def describe (notifier : Notifier) : Text.Record :=
  notifier.signal.describe

end Notifier

end Handoff.Wake
