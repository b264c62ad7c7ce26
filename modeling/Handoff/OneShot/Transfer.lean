import Handoff.OneShot.Blocking

namespace Handoff.OneShot

/-! A producer that sends several values through a one-shot channel and then drops
its end, and a consumer that receives twice.  Whichever thread is faster, the
answers are the same; here the producer goes first.
-/

structure Exchange (α : Type u) where
  sends : List (Except (SendError α) Unit)
  first : Except ReceiveError α
  second : Except ReceiveError α
  closed : Bool

namespace Channel

def sendAll (channel : Channel α) (values : List α) :
    List (Except (SendError α) Unit) × Channel α :=
  match values with
  | [] => ([], channel)
  | value :: rest =>
      let sent := channel.send value
      let (answers, channel) := sent.state.sendAll rest
      (sent.result :: answers, channel)

end Channel

def exchange (values : List α) : Exchange α :=
  let (sends, sent) := ({} : Channel α).sendAll values
  let left := sent.dropSender.state
  let first := left.receive []
  let second := first.state.receive []
  ⟨sends, first.result, second.result, second.state.receiverClosed⟩

end Handoff.OneShot
