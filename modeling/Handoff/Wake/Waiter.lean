import Handoff.Wake.Notifier

namespace Handoff.Wake

/-! The thread that waits on a notifier.  A thread has a token that unparking sets
and parking consumes; parking without the token blocks until it is set.
-/

structure Waiter where
  notifier : Notifier := {}
  token : Bool := false
  /-- Notifications that other threads will make as soon as this one blocks. -/
  remote : Nat := 0
deriving DecidableEq

/-- One evaluation of the awaited condition: what happens during it, and whether
the condition holds. -/
structure Evaluation where
  notifications : Nat := 0
  unparks : Bool := false
  remote : Bool := false
  holds : Bool
deriving DecidableEq

/-- How a wait ends: `seen` is the signal at the beginning of each evaluation. -/
structure WaitResult where
  returned : Bool
  seen : List Signal
  waiter : Waiter
deriving DecidableEq

namespace Waiter

def signal (waiter : Waiter) : Signal :=
  waiter.notifier.signal

def unpark (waiter : Waiter) (handle : Option WaiterHandle) : Waiter :=
  { waiter with token := waiter.token || handle.isSome }

def notifyOne (waiter : Waiter) : Waiter :=
  let (handle, notifier) := waiter.notifier.notifyOne
  { waiter with notifier := notifier }.unpark handle

def evaluate (waiter : Waiter) (evaluation : Evaluation) : Waiter :=
  let notified := Nat.repeat notifyOne evaluation.notifications waiter
  { notified with
    token := notified.token || evaluation.unparks
    remote := notified.remote + evaluation.remote.toNat }

/-- Leaves the handle of this thread and announces that it waits.  The answer is
whether a notification was already there, which is then consumed. -/
def prepare (waiter : Waiter) : Bool × Waiter :=
  let (pending, parker) := waiter.notifier.parker.register .waiter
  let registered := { waiter with notifier.parker := parker }.unpark pending
  let (before, notifier) := registered.notifier.exchange .waiting
  if before = .notified then
    (true, { registered with notifier := notifier.replace .waiting .empty })
  else (false, { registered with notifier := notifier })

/-- Consumes the token, or blocks until another thread sets it; there is no
result if none will. -/
def park? (waiter : Waiter) : Option Waiter :=
  if waiter.token then some { waiter with token := false }
  else
    match waiter.remote with
    | 0 => none
    | remote + 1 =>
        let woken := { waiter with remote := remote }.notifyOne
        if woken.token then some { woken with token := false } else none

/-- After parking, a notification that ended it is consumed. -/
def acknowledge (waiter : Waiter) : Waiter :=
  { waiter with notifier := waiter.notifier.replace .notified .empty }

end Waiter

def WaitResult.after (earlier : List Signal) (result : WaitResult) : WaitResult :=
  { result with seen := earlier ++ result.seen }

/-- Waits until the condition holds.  It is evaluated before registering and once
more before parking, so that a change made in between is not missed.  Evaluations
that are not given hold and do nothing. -/
def Waiter.waitUntil (waiter : Waiter) : List Evaluation → WaitResult
  | [] => ⟨true, [waiter.signal], waiter⟩
  | first :: rest =>
      let evaluated := waiter.evaluate first
      if first.holds then ⟨true, [waiter.signal], evaluated⟩
      else
        match evaluated.prepare, rest with
        | (true, prepared), rest => (prepared.waitUntil rest).after [waiter.signal]
        | (false, prepared), [] => ⟨true, [waiter.signal, prepared.signal], prepared⟩
        | (false, prepared), second :: rest =>
            let seen := [waiter.signal, prepared.signal]
            let evaluated := prepared.evaluate second
            if second.holds then ⟨true, seen, evaluated⟩
            else
              match evaluated.park? with
              | none => ⟨false, seen, evaluated⟩
              | some woken => (woken.acknowledge.waitUntil rest).after seen

end Handoff.Wake
