import Handoff.Wake.Waiter

namespace Handoff.Wake.Scenario

/-! A notifier driven step by step from the one thread that waits on it. -/

inductive Step where
  | notify
  | describe
  | wait (evaluations : List Evaluation)
  | unknown
deriving DecidableEq

inductive Answer where
  | notified (shown : Text.Record)
  | described (shown : Text.Record)
  | waited (seen : List Text.Record) (shown : Text.Record)
  | refused
deriving DecidableEq

def follow (waiter : Waiter) : Step → Waiter × Answer
  | .notify =>
      let notified := waiter.notifyOne
      (notified, .notified notified.notifier.describe)
  | .describe => (waiter, .described waiter.notifier.describe)
  | .wait evaluations =>
      let result := waiter.waitUntil evaluations
      (result.waiter, .waited (result.seen.map Signal.describe) result.waiter.notifier.describe)
  | .unknown => (waiter, .refused)

def play (waiter : Waiter) : List Step → List Answer
  | [] => []
  | step :: rest =>
      let (waiter, answer) := follow waiter step
      answer :: play waiter rest

end Handoff.Wake.Scenario
