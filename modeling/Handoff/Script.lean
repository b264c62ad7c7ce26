import Handoff.Strategy

namespace Handoff

/-! The log of a channel that is driven by a script.  A blocking call that has to
wait lets the peer act; the waiting and the acts of the peer are recorded among
the events of the channel.
-/

/-- An act of the peer is of type `κ`; its answer is of type `ρ`, and what the
ends of the channel report after it is of type `ω`. -/
inductive Entry (α : Type u) (κ : Type v) (ρ : Type w) (ω : Type x) where
  | event (event : Event α)
  | waiting (waiter : Side) (ready : Bool)
  | resumed (waiter : Side) (ready : Bool)
  | acted (act : κ) (answer : ρ) (ends : ω)

def WaitStrategy.reportsEntry (strategy : WaitStrategy) : Entry α κ ρ ω → Bool
  | .event event => strategy.reports event
  | .waiting .. | .resumed .. | .acted .. => true

end Handoff
