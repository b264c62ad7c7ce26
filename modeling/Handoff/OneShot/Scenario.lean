import Handoff.OneShot.Blocking

namespace Handoff.OneShot.Scenario

/-! A one-shot channel driven from one thread, one call after the other. -/

/-- A blocking call that nobody could ever end is refused as `wouldBlock`. -/
inductive Answer (α : Type u) where
  | reply (reply : Reply α)
  | wouldBlock

structure Turn (α : Type u) where
  answer : Answer α
  reports : EndReports
  log : List (ChannelEntry α)

structure Transcript (α : Type u) where
  turns : List (Turn α)
  ended : List (Event α)

def follow (strategy : WaitStrategy) (channel : Channel α) (call : Call α) :
    Channel α × Turn α :=
  if strategy != .scripted && channel.wouldBlock call then
    (channel, ⟨.wouldBlock, channel.reports, []⟩)
  else
    let called := channel.call call
    (called.state,
      ⟨.reply called.result, called.state.reports, called.log.filter strategy.reportsEntry⟩)

def followAll (strategy : WaitStrategy) (channel : Channel α) (calls : List (Call α)) :
    Channel α × Array (Turn α) :=
  calls.foldl (fun (channel, turns) call =>
    let (channel, turn) := follow strategy channel call
    (channel, turns.push turn)) (channel, #[])

/-- Drops what is left of the channel, the sender first. -/
def finish (channel : Channel α) : Channel.Step α Unit :=
  (channel.perform .dropSender).andThen fun _ channel =>
    (channel.perform .dropReceiver).mapResult fun _ => ()

def play (strategy : WaitStrategy) (calls : List (Call α)) : Transcript α :=
  let (channel, turns) := followAll strategy {} calls
  { turns := turns.toList
    ended := (finish channel).log.filter strategy.reports }

end Handoff.OneShot.Scenario
