import Handoff.Ring.Blocking
import Handoff.Value

namespace Handoff.Ring.Scenario

/-! A channel driven step by step from one thread.  Each step is answered, reports
both ends as it leaves them, and shows what happened.
-/

/-- `fill` sends `count` integers, from `first` on.  `cycle` does so too, and
receives once after each. -/
inductive Step where
  | call (call : Call Value)
  | fill (first : Int) (count : Nat)
  | cycle (first : Int) (count : Nat)

/-- How many sends were accepted, and how many failed for which reason. -/
structure FillCount where
  sent : Nat := 0
  full : Nat := 0
  closed : Nat := 0
deriving DecidableEq

/-- `sum` adds up the integers received; other values do not count. -/
structure CycleCount where
  sent : Nat := 0
  received : Nat := 0
  sum : Int := 0
  last : Option Value := none

/-- A blocking call that nobody could ever end is refused as `wouldBlock`. -/
inductive Answer where
  | reply (reply : Reply Value)
  | filled (count : FillCount)
  | cycled (count : CycleCount)
  | gone
  | wouldBlock

/-- The log of one step.  Of many sends at once only the numbers are kept. -/
inductive Log where
  | entries (entries : List (ChannelEntry Value))
  | tally (tally : Tally)

structure Turn where
  answer : Answer
  reports : EndReports
  log : Log

structure Transcript where
  capacity : Nat
  created : List (Event Value)
  turns : List Turn
  ended : List (Event Value)

/-- Many sends in a row on their way, and what has become of them so far. -/
structure Bulk (ρ : Type) where
  channel : Channel Value
  count : ρ
  tally : Tally := {}

namespace Bulk

def note (strategy : WaitStrategy) (bulk : Bulk ρ) (step : Channel.Step Value τ) : Bulk ρ :=
  { bulk with
    channel := step.state
    tally := bulk.tally.countAll (step.log.filter strategy.reports) }

def fillNext (strategy : WaitStrategy) (bulk : Bulk FillCount) (value : Int) : Bulk FillCount :=
  let step := bulk.channel.trySend (.integer value)
  let noted := bulk.note strategy step
  let count := match step.result with
    | .ok () => { bulk.count with sent := bulk.count.sent + 1 }
    | .error (.full _) => { bulk.count with full := bulk.count.full + 1 }
    | .error (.closed _) => { bulk.count with closed := bulk.count.closed + 1 }
  { noted with count := count }

def sendOne (strategy : WaitStrategy) (bulk : Bulk CycleCount) (value : Int) :
    Bulk CycleCount :=
  let step := bulk.channel.trySend (.integer value)
  let noted := bulk.note strategy step
  match step.result with
  | .ok () => { noted with count.sent := noted.count.sent + 1 }
  | .error _ => noted

def receiveOne (strategy : WaitStrategy) (bulk : Bulk CycleCount) : Bulk CycleCount :=
  let step := bulk.channel.takeOldest
  let noted := bulk.note strategy step
  match step.result with
  | .ok value =>
      let count := noted.count
      { noted with
        count :=
          { count with
            received := count.received + 1
            sum := count.sum + value.integer?.getD 0
            last := some value } }
  | .error _ => noted

def cycleNext (strategy : WaitStrategy) (bulk : Bulk CycleCount) (value : Int) :
    Bulk CycleCount :=
  (bulk.sendOne strategy value).receiveOne strategy

end Bulk

def integersFrom (first : Int) (count : Nat) : List Int :=
  (List.range count).map fun (offset : Nat) => first + offset

/-- Ends a step of the scenario in the given state. -/
def turn (channel : Channel Value) (answer : Answer) (log : Log) : Channel Value × Turn :=
  (channel, ⟨answer, channel.reports, log⟩)

def follow (strategy : WaitStrategy) (channel : Channel Value) : Step → Channel Value × Turn
  | .call call =>
      if strategy != .scripted && channel.wouldBlock call then
        turn channel .wouldBlock (.entries [])
      else
        let called := channel.call call
        turn called.state (.reply called.result)
          (.entries (called.log.filter strategy.reportsEntry))
  | .fill first count =>
      if !channel.senderAlive then turn channel .gone (.tally {})
      else
        let bulk := (integersFrom first count).foldl (Bulk.fillNext strategy) ⟨channel, {}, {}⟩
        turn bulk.channel (.filled bulk.count) (.tally bulk.tally)
  | .cycle first count =>
      if !(channel.senderAlive && channel.receiverAlive) then
        turn channel .gone (.tally {})
      else
        let bulk := (integersFrom first count).foldl (Bulk.cycleNext strategy) ⟨channel, {}, {}⟩
        turn bulk.channel (.cycled bulk.count) (.tally bulk.tally)

def followAll (strategy : WaitStrategy) (channel : Channel Value) (steps : List Step) :
    Channel Value × Array Turn :=
  steps.foldl (fun (channel, turns) step =>
    let (channel, turn) := follow strategy channel step
    (channel, turns.push turn)) (channel, #[])

/-- Drops what is left of the channel, the sender first. -/
def finish (channel : Channel Value) : Channel.Step Value Unit :=
  (channel.perform .dropSender).andThen fun _ channel =>
    (channel.perform .dropReceiver).mapResult fun _ => ()

def play (overflow : Overflow) (strategy : WaitStrategy) (requested : Nat) (steps : List Step) :
    Except CreationError Transcript :=
  (Channel.allocate referenceBytes overflow requested).map fun created =>
    let (channel, turns) := followAll strategy created.state steps
    { capacity := created.state.capacity
      created := created.log.filter strategy.reports
      turns := turns.toList
      ended := (finish channel).log.filter strategy.reports }

end Handoff.Ring.Scenario
