import Handoff.Strategy
import Handoff.Wake.Waiter

namespace Handoff

/-! What a wait strategy does when it is tried out on a new waiter, which is
notified once and then waited on until a condition holds.
-/

/-- How often the condition was evaluated, and how the waiter shows itself
afterwards. -/
structure Rehearsal where
  evaluations : Nat
  waiter : String
deriving DecidableEq

/-- Evaluations that each notify the waiter, the condition holding from the
`turn`-th on. -/
def notifyingEvaluations (turn : Nat) : List Wake.Evaluation :=
  List.replicate (turn - 1) { notifications := 1, holds := false } ++
    [{ notifications := 1, holds := true }]

/-- Only waiting on a notifier evaluates the condition.  The other strategies have
nothing to wait on: they pause, and leave it to the caller to try again. -/
def WaitStrategy.rehearse (turn : Nat) : WaitStrategy → Rehearsal
  | .busyLoop | .yield | .scripted => ⟨0, "()"⟩
  | .atomicWait =>
      let waiter : Wake.Waiter := {}
      let result := waiter.notifyOne.waitUntil (notifyingEvaluations turn)
      ⟨result.seen.length, result.waiter.notifier.describe.line⟩

end Handoff
