import Handoff.Handle.Action
import Handoff.Value

namespace Handoff.Handle.Scenario

/-! Named handles driven step by step. -/

/-- `spec` in `format` is the spelling of a specification, which may be unknown. -/
inductive Step where
  | act (action : Action Value)
  | equal (name other : String)
  | format (name spec : String)
  | unknown

inductive Answer where
  | plain (answer : Handle.Answer Value)
  | formatted (text : String)
  | badSpec
  | refused

structure Turn where
  answer : Answer
  live : List (String × Nat × Value)
  log : List (Event Value)

structure Transcript where
  turns : List Turn
  ended : List (Event Value)

/-- What a handle is when no payload is given for it. -/
def standardPayload : Value :=
  .integer 0

def format (spec : String) (payload : Value) : Answer :=
  match Text.Spec.ofSpelling? spec with
  | none => .badSpec
  | some spec =>
      match payload.render? spec with
      | some text => .formatted text
      | none => .badSpec

def payload? (registry : Registry Value) (name : String) : Option Value :=
  (registry.find? name).bind registry.heap.payload?

def follow (registry : Registry Value) : Step → Registry.Step Value Answer
  | .act action => (registry.perform action).mapResult .plain
  | .equal name other =>
      match payload? registry name, payload? registry other with
      | some first, some second => ⟨.plain (.truth (first.same second)), registry, []⟩
      | _, _ => ⟨.plain .gone, registry, []⟩
  | .format name spec =>
      match payload? registry name with
      | some payload => ⟨format spec payload, registry, []⟩
      | none => ⟨.plain .gone, registry, []⟩
  | .unknown => ⟨.refused, registry, []⟩

def followAll (registry : Registry Value) (steps : List Step) : Registry Value × Array Turn :=
  steps.foldl (fun (registry, turns) step =>
    let followed := follow registry step
    (followed.state, turns.push ⟨followed.result, followed.state.live, followed.log⟩))
    (registry, #[])

def play (steps : List Step) : Transcript :=
  let (registry, turns) := followAll {} steps
  ⟨turns.toList, registry.dropAll.log⟩

end Handoff.Handle.Scenario
