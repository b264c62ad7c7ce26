namespace Handoff

/-! What an operation leaves behind.  The operations of this library are functions
from a state to an outcome: nothing is changed in place, and nothing that happens
on the way is lost.
-/

/-- The answer, the state after the operation, and what happened on the way,
oldest first. -/
structure Outcome (σ : Type u) (ε : Type v) (ρ : Type w) where
  result : ρ
  state : σ
  log : List ε

namespace Outcome

/-- Goes on from the state an outcome ends in; both logs are kept. -/
def andThen (first : Outcome σ ε ρ) (next : ρ → σ → Outcome σ ε τ) : Outcome σ ε τ :=
  let second := next first.result first.state
  { second with log := first.log ++ second.log }

def mapResult (change : ρ → τ) (outcome : Outcome σ ε ρ) : Outcome σ ε τ :=
  { outcome with result := change outcome.result }

def mapLog (change : List ε → List δ) (outcome : Outcome σ ε ρ) : Outcome σ δ ρ :=
  { outcome with log := change outcome.log }

@[simp] theorem andThen_result (first : Outcome σ ε ρ) (next : ρ → σ → Outcome σ ε τ) :
    (first.andThen next).result = (next first.result first.state).result := rfl

@[simp] theorem andThen_state (first : Outcome σ ε ρ) (next : ρ → σ → Outcome σ ε τ) :
    (first.andThen next).state = (next first.result first.state).state := rfl

@[simp] theorem andThen_log (first : Outcome σ ε ρ) (next : ρ → σ → Outcome σ ε τ) :
    (first.andThen next).log = first.log ++ (next first.result first.state).log := rfl

@[simp] theorem mapResult_result (change : ρ → τ) (outcome : Outcome σ ε ρ) :
    (outcome.mapResult change).result = change outcome.result := rfl

@[simp] theorem mapResult_state (change : ρ → τ) (outcome : Outcome σ ε ρ) :
    (outcome.mapResult change).state = outcome.state := rfl

@[simp] theorem mapResult_log (change : ρ → τ) (outcome : Outcome σ ε ρ) :
    (outcome.mapResult change).log = outcome.log := rfl

@[simp] theorem mapLog_result (change : List ε → List δ) (outcome : Outcome σ ε ρ) :
    (outcome.mapLog change).result = outcome.result := rfl

@[simp] theorem mapLog_state (change : List ε → List δ) (outcome : Outcome σ ε ρ) :
    (outcome.mapLog change).state = outcome.state := rfl

@[simp] theorem mapLog_log (change : List ε → List δ) (outcome : Outcome σ ε ρ) :
    (outcome.mapLog change).log = change outcome.log := rfl

end Outcome

end Handoff
