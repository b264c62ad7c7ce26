import Handoff.Proofs.Handle.Naming

namespace Handoff.Handle

/-! What an action on named handles comes to.  At most one handle goes with it, and a
payload is destroyed with it only if that was the last handle to a block.  Blocks that none
of the names stands for do not notice.
-/

/-- The payloads that are destroyed, oldest first. -/
def destroyedIn (log : List (Event α)) : List α :=
  log.filterMap fun
    | .destroyed payload => some payload
    | _ => none

theorem destroyedIn_append (first second : List (Event α)) :
    destroyedIn (first ++ second) = destroyedIn first ++ destroyedIn second :=
  List.filterMap_append

/-- What happened elsewhere. -/
def Answer.events : Answer α → List (Event α)
  | .away log => log
  | _ => []

/-- The names an action speaks of. -/
def Action.names : Action α → List String
  | .create name _ | .drop name | .read name => [name]
  | .clone name target | .move name target => [name, target]
  | .sameBlock name other => [name, other]
  | .assign name _ | .assignShared name _ => [name]
  | .cloneMany name _ | .shareAmong name _ _ | .sendAway name _ => [name]

/-- The payload that went into a block, if the action was answered that way. -/
def Action.stored : Action α → Answer α → List α
  | .create _ payload, .done => [payload]
  | .assign _ payload, .truth true => [payload]
  | .assignShared _ payload, .done => [payload]
  | .sendAway _ (some payload), .away _ => [payload]
  | _, _ => []

/-- Whether the action is to put a payload into a block that has one. -/
def Action.assigns : Action α → Bool
  | .assign .. | .assignShared .. | .sendAway _ (some _) => true
  | _ => false

namespace Heap

/-- Of the blocks with handles before, at most one has none after, and the payload of that
one is destroyed. -/
structure LosesLast (heap : Heap α) (before after : List Address) (destroyed : List α) :
    Prop where
  last : ∀ address payload, heap.payload? address = some payload → address ∉ after →
    destroyed = [payload]
  kept : (∀ address ∈ before, address ∈ after) → destroyed = []
  one : ∀ first ∈ before, ∀ second ∈ before, first ∉ after → second ∉ after → first = second

variable {heap : Heap α} {before after handles : List Address} {destroyed : List α}
  {address : Address} {payload : α}

theorem LosesLast.of_kept (lives : ∀ address payload, heap.payload? address = some payload →
      address ∈ before) (kept : ∀ address ∈ before, address ∈ after) :
    heap.LosesLast before after [] where
  last address payload found gone := absurd (kept address (lives address payload found)) gone
  kept _ := rfl
  one first member _ _ gone := absurd (kept first member) gone

/-- One handle is dropped. -/
theorem LosesLast.of_drop (lives : ∀ address payload, heap.payload? address = some payload →
      address ∈ before) (dropped : address ∈ before)
    (remain : ∀ other ∈ before, other ≠ address → other ∈ after)
    (destroys : destroyed = if address ∈ after then [] else (heap.payload? address).toList) :
    heap.LosesLast before after destroyed := by
  have only (other : Address) (member : other ∈ before) (gone : other ∉ after) :
      other = address := by
    by_contra differs
    exact gone (remain other member differs)
  constructor
  · intro other payload found gone
    obtain rfl := only other (lives other payload found) gone
    rw [destroys, if_neg gone, found]
    rfl
  · intro kept
    rw [destroys, if_pos (kept address dropped)]
  · intro first isFirst second isSecond firstGone secondGone
    rw [only first isFirst firstGone, only second isSecond secondGone]

theorem destroyedIn_last (condition : Prop) [Decidable condition] (heap : Heap α)
    (address : Address) :
    destroyedIn (if condition then [] else ((heap.payload? address).map Event.destroyed).toList) =
      if condition then [] else (heap.payload? address).toList := by
  split
  · rfl
  · cases heap.payload? address <;> rfl

end Heap

namespace Registry

def after (registry : Registry α) (actions : List (Action α)) : Registry α :=
  actions.foldl (fun registry action => (registry.perform action).state) registry

/-- The payloads an action destroys, wherever it does so. -/
def destroyedBy (registry : Registry α) (action : Action α) : List α :=
  destroyedIn ((registry.perform action).log ++ (registry.perform action).result.events)

/-- What each name stands for after an action.  A new block gets the address after all
others. -/
def standingAfter (registry : Registry α) : Action α → String → Option Address
  | .create name _ => Function.update registry.find? name (some registry.heap.blocks.size)
  | .clone name target =>
      match registry.find? name with
      | some address => Function.update registry.find? target (some address)
      | none => registry.find?
  | .move name target =>
      match registry.find? name with
      | some address =>
          Function.update (Function.update registry.find? name none) target (some address)
      | none => registry.find?
  | .drop name | .sendAway name _ => Function.update registry.find? name none
  | .read _ | .sameBlock _ _ | .assign _ _ | .assignShared _ _ => registry.find?
  | .cloneMany _ _ | .shareAmong _ _ _ => registry.find?

/-- What an action does: nothing, or one of the operations on named handles.  What is
assigned is listed. -/
inductive Effect (registry : Registry α) : Action α → List α → Step α Unit → Prop where
  | nothing (action : Action α) : Effect registry action [] ⟨(), registry, []⟩
  | create (name : String) (payload : α) :
      Effect registry (.create name payload) [payload] (registry.create name payload)
  | clone (target : String) (found : registry.find? name = some address) :
      Effect registry (.clone name target) [] (registry.clone address target)
  | move (target : String) (found : registry.find? name = some address) :
      Effect registry (.move name target) [] (registry.move name address target)
  | drop (found : registry.find? name = some address) :
      Effect registry (.drop name) [] (registry.drop name address)
  | assign (payload : α) (found : registry.find? name = some address)
      (alone : registry.heap.holders address = 1) :
      Effect registry (.assign name payload) [payload]
        (registry.onHeap (registry.heap.assign address payload))
  | assignShared (payload : α) (found : registry.find? name = some address) :
      Effect registry (.assignShared name payload) [payload]
        (registry.onHeap (registry.heap.assign address payload))
  | sendAway (payload : Option α) (found : registry.find? name = some address) :
      Effect registry (.sendAway name payload) payload.toList
        (registry.sendAway name address payload)

/-- What a step does to handles and blocks, if it only speaks of the given names. -/
structure Minds (before : Registry α) (names : List String) (after : Registry α) : Prop where
  sound : after.Sound []
  grows : before.heap.blocks.size ≤ after.heap.blocks.size
  others : ∀ address < before.heap.blocks.size,
    (∀ name ∈ names, before.find? name ≠ some address) →
      after.heap.block? address = before.heap.block? address

variable {registry : Registry α} {name target : String} {address : Address}

/-! Actions that clone a handle and drop all the clones. -/

theorem cloneMany_eq (sound : registry.Sound []) (found : registry.find? name = some address)
    (count : Nat) :
    registry.cloneMany address count =
      ⟨.cloned (registry.handles address + count) true (registry.handles address),
        registry, []⟩ := by
  have member := sound.mem_held found
  obtain ⟨block, found, holders⟩ := sound.counts.held address member
  have positive : 0 < block.holders := holders ▸ List.count_pos_iff.mpr member
  have shared := Heap.block?_store found
    (some { block with holders := block.holders + count }) address
  rw [if_pos rfl] at shared
  rw [cloneMany, Heap.clones_eq found]
  dsimp only
  rw [Heap.releaseAll_clones found positive, Heap.holders_of_block? shared]
  simp [onHeap, Outcome.andThen, Heap.holders_of_block? found, holders, handles]

theorem rounds_eq {heap : Heap α} (round : heap.cloneAndRelease address = ⟨(), heap, []⟩)
    (times : Nat) :
    Nat.repeat (fun step : Heap.Step α Unit =>
      step.andThen fun _ heap => heap.cloneAndRelease address) times ⟨(), heap, []⟩ =
        ⟨(), heap, []⟩ := by
  induction times with
  | zero => rfl
  | succ times ih => rw [Nat.repeat, ih, Outcome.andThen, round]; rfl

theorem shareAmong_eq (sound : registry.Sound []) (found : registry.find? name = some address)
    (threads rounds : Nat) :
    registry.shareAmong address threads rounds =
      ⟨.count (registry.handles address), registry, []⟩ := by
  have member := sound.mem_held found
  obtain ⟨block, found, holders⟩ := sound.counts.held address member
  have positive : 0 < block.holders := holders ▸ List.count_pos_iff.mpr member
  have shared := Heap.block?_store found
    (some { block with holders := block.holders + threads }) address
  rw [if_pos rfl] at shared
  have round := Heap.cloneAndRelease_eq shared (Nat.add_pos_left positive threads)
  rw [shareAmong, Heap.clones_eq found]
  dsimp only
  rw [rounds_eq round]
  simp only [Outcome.andThen, Heap.releaseAll_clones found positive]
  simp [onHeap, Heap.holders_of_block? found, holders, handles]

/-! What every action does. -/

/-- What a step answers, leaves and logs is what its effect does. -/
def ComesTo (registry : Registry α) (action : Action α) (step : Step α (Answer α)) : Prop :=
  ∃ effect, registry.Effect action (action.stored step.result) effect ∧
    step.state = effect.state ∧ step.log ++ step.result.events = effect.log

theorem withHandle_comesTo {action : Action α} {act : Address → Step α (Answer α)}
    (gone : action.stored .gone = [])
    (here : ∀ address, registry.find? name = some address → registry.ComesTo action (act address)) :
    registry.ComesTo action (registry.withHandle name act) := by
  rw [withHandle]
  split
  · next found => exact here _ found
  · refine ⟨⟨(), registry, []⟩, ?_, rfl, rfl⟩
    rw [gone]
    exact .nothing action

theorem perform_comesTo (sound : registry.Sound []) (action : Action α) :
    registry.ComesTo action (registry.perform action) := by
  cases action with
  | create name payload => exact ⟨_, .create name payload, rfl, List.append_nil _⟩
  | clone name target =>
      refine withHandle_comesTo rfl fun address found => ?_
      exact ⟨_, .clone target found, rfl, List.append_nil _⟩
  | move name target =>
      refine withHandle_comesTo rfl fun address found => ?_
      exact ⟨_, .move target found, rfl, List.append_nil _⟩
  | drop name =>
      refine withHandle_comesTo rfl fun address found => ?_
      exact ⟨_, .drop found, rfl, List.append_nil _⟩
  | read name =>
      refine withHandle_comesTo rfl fun address found => ?_
      split <;> exact ⟨_, .nothing _, rfl, rfl⟩
  | sameBlock name other =>
      refine withHandle_comesTo rfl fun first _ => ?_
      refine withHandle_comesTo rfl fun second _ => ?_
      exact ⟨_, .nothing _, rfl, rfl⟩
  | assign name payload =>
      refine withHandle_comesTo rfl fun address found => ?_
      rw [Heap.assignUnique]
      split
      · next alone => exact ⟨_, .assign payload found alone, rfl, List.append_nil _⟩
      · exact ⟨_, .nothing _, rfl, rfl⟩
  | assignShared name payload =>
      refine withHandle_comesTo rfl fun address found => ?_
      exact ⟨_, .assignShared payload found, rfl, List.append_nil _⟩
  | cloneMany name count =>
      refine withHandle_comesTo rfl fun address found => ?_
      rw [cloneMany_eq sound found]
      exact ⟨_, .nothing _, rfl, rfl⟩
  | shareAmong name threads rounds =>
      refine withHandle_comesTo rfl fun address found => ?_
      rw [shareAmong_eq sound found]
      exact ⟨_, .nothing _, rfl, rfl⟩
  | sendAway name payload =>
      refine withHandle_comesTo (by cases payload <;> rfl) fun address found => ?_
      refine ⟨_, ?_, rfl, rfl⟩
      cases payload
      · exact .sendAway none found
      · exact .sendAway (some _) found

/-! What becomes of the names. -/

theorem withHandle_find? {standing : String → Option Address}
    {act : Address → Step α (Answer α)}
    (gone : registry.find? name = none → registry.find? = standing)
    (here : ∀ address, registry.find? name = some address → (act address).state.find? = standing) :
    (registry.withHandle name act).state.find? = standing := by
  rw [withHandle]
  split
  · next found => exact here _ found
  · next absent => exact gone absent

theorem update_none (absent : registry.find? name = none) :
    registry.find? = Function.update registry.find? name none := by
  rw [← absent, Function.update_eq_self]

/-- Names change only when a handle is created, cloned, moved or dropped. -/
theorem perform_find? (registry : Registry α) (action : Action α) :
    (registry.perform action).state.find? = registry.standingAfter action := by
  cases action with
  | create name payload => exact find?_create registry name payload
  | clone name target =>
      rw [standingAfter]
      refine withHandle_find? (fun absent => ?_) fun address found => ?_
      · rw [absent]
      · rw [found]
        exact find?_clone registry address target
  | move name target =>
      rw [standingAfter]
      refine withHandle_find? (fun absent => ?_) fun address found => ?_
      · rw [absent]
      · rw [found]
        exact find?_move registry name address target
  | drop name =>
      refine withHandle_find? update_none fun address _ => ?_
      exact find?_drop registry name address
  | sendAway name payload =>
      refine withHandle_find? update_none fun address _ => ?_
      cases payload <;> exact find?_drop _ name address
  | read name =>
      refine withHandle_find? (fun _ => rfl) fun address _ => ?_
      split <;> rfl
  | sameBlock name other =>
      refine withHandle_find? (fun _ => rfl) fun _ _ => ?_
      exact withHandle_find? (fun _ => rfl) fun _ _ => rfl
  | assign => exact withHandle_find? (fun _ => rfl) fun _ _ => rfl
  | assignShared => exact withHandle_find? (fun _ => rfl) fun _ _ => rfl
  | cloneMany => exact withHandle_find? (fun _ => rfl) fun _ _ => rfl
  | shareAmong => exact withHandle_find? (fun _ => rfl) fun _ _ => rfl

/-! What becomes of handles and blocks. -/

theorem Minds.refl (sound : registry.Sound []) (names : List String) :
    registry.Minds names registry :=
  ⟨sound, Nat.le_refl _, fun _ _ _ => rfl⟩

/-- A handle is put under a name, where there may have been another. -/
theorem Sound.bind_minds {before : Registry α} {names : List String}
    (sound : registry.Sound [address])
    (grows : before.heap.blocks.size ≤ registry.heap.blocks.size)
    (named : name ∈ names)
    (taken : ∀ old, registry.find? name = some old → before.find? name = some old)
    (others : ∀ address < before.heap.blocks.size,
      (∀ name ∈ names, before.find? name ≠ some address) →
        registry.heap.block? address = before.heap.block? address) :
    before.Minds names (registry.bind name address).state := by
  obtain ⟨bound, -, ⟨-, heap, -⟩ | ⟨old, found, heap, -⟩⟩ := sound.bind name
  · refine ⟨bound, ?_, ?_⟩ <;> rwa [heap]
  · refine ⟨bound, ?_, fun other inside unnamed => ?_⟩
    · rwa [heap, Heap.size_release]
    · have differs : other ≠ old := by
        rintro rfl
        exact unnamed name named (taken other found)
      rw [heap, Heap.block?_release_of_ne differs, others other inside unnamed]

theorem Sound.bind_losesLast {heap : Heap α} {before : List Address}
    (sound : registry.Sound [address]) (name : String)
    (lives : ∀ other payload, heap.payload? other = some payload → other ∈ before)
    (payloads : ∀ other ∈ before, registry.heap.payload? other = heap.payload? other)
    (least : ∀ other ∈ registry.held, other ∈ before)
    (most : ∀ other ∈ before, other = address ∨ other ∈ registry.held) :
    heap.LosesLast before (registry.bind name address).state.held
      (destroyedIn (registry.bind name address).log) := by
  obtain ⟨-, renamed, ⟨absent, -, log⟩ | ⟨old, found, -, log⟩⟩ := sound.bind name
  · rw [forget_of_none absent] at renamed
    rw [log]
    refine .of_kept lives fun other member => renamed.mem_iff.mpr ?_
    exact List.mem_cons.mpr (most other member)
  · have dropped := least old (sound.mem_held found)
    refine .of_drop lives dropped (fun other member differs => renamed.mem_iff.mpr ?_) ?_
    · refine List.mem_cons.mpr ((most other member).imp_right fun member => ?_)
      exact List.mem_of_ne_of_mem differs ((sound.held_perm found).mem_iff.mp member)
    · rw [log, payloads old dropped, Heap.destroyedIn_last]

theorem Sound.create_minds (sound : registry.Sound []) (name : String) (payload : α) :
    let step := registry.create name payload
    registry.Minds [name] step.state ∧
      registry.heap.LosesLast registry.held step.state.held (destroyedIn step.log) := by
  have made := sound.allocate payload
  refine ⟨made.bind_minds ?_ List.mem_cons_self (fun _ => id) fun other inside _ => ?_,
    made.bind_losesLast name (fun _ _ => sound.counts.mem_of_payload?) (fun other member => ?_)
      (fun _ => id) fun _ => .inr⟩
  · simp [Heap.allocate]
  · rw [Heap.block?_allocate, if_neg (Nat.ne_of_lt inside)]
  · refine Heap.payload?_allocate_of_ne ?_ payload
    rintro rfl
    exact sound.counts.fresh member

theorem Sound.clone_minds (sound : registry.Sound []) (found : registry.find? name = some address)
    (target : String) :
    let step := registry.clone address target
    registry.Minds [name, target] step.state ∧
      registry.heap.LosesLast registry.held step.state.held (destroyedIn step.log) := by
  have member := sound.mem_held found
  obtain ⟨block, lives, -⟩ := sound.counts.held address member
  have made := sound.share member
  rw [clone_eq]
  refine ⟨made.bind_minds ?_ (List.mem_cons_of_mem _ List.mem_cons_self) (fun _ => id)
      fun other inside unnamed => ?_,
    made.bind_losesLast target (fun _ _ => sound.counts.mem_of_payload?) (fun other _ => ?_)
      (fun _ => id) fun _ => .inr⟩
  · exact Nat.le_of_eq (Heap.size_share ..).symm
  · refine Heap.block?_share_of_ne ?_
    rintro rfl
    exact unnamed name List.mem_cons_self found
  · exact Heap.payload?_share lives other

theorem Sound.move_minds (sound : registry.Sound []) (found : registry.find? name = some address)
    (target : String) :
    let step := registry.move name address target
    registry.Minds [name, target] step.state ∧
      registry.heap.LosesLast registry.held step.state.held (destroyedIn step.log) := by
  have forgotten := sound.forget found
  have entries := sound.held_perm found
  refine ⟨forgotten.bind_minds (Nat.le_refl _) (List.mem_cons_of_mem _ List.mem_cons_self)
      (fun old taken => ?_) fun _ _ _ => rfl,
    forgotten.bind_losesLast target (fun _ _ => sound.counts.mem_of_payload?) (fun _ _ => rfl)
      (fun _ => sound.mem_of_mem_forget found) fun _ member => ?_⟩
  · rw [find?_forget, Function.update_apply] at taken
    split at taken
    · cases taken
    · exact taken
  · exact List.mem_cons.mp (entries.mem_iff.mp member)

theorem Sound.drop_minds (sound : registry.Sound []) (found : registry.find? name = some address) :
    let step := registry.drop name address
    registry.Minds [name] step.state ∧
      registry.heap.LosesLast registry.held step.state.held (destroyedIn step.log) := by
  obtain ⟨left, held, heap, log⟩ := sound.drop found
  have entries := sound.held_perm found
  refine ⟨⟨left, ?_, fun other _ unnamed => ?_⟩,
    .of_drop (fun _ _ => sound.counts.mem_of_payload?) (sound.mem_held found)
      (fun other member differs => ?_) ?_⟩
  · exact Nat.le_of_eq (by rw [heap, Heap.size_release])
  · rw [heap]
    refine Heap.block?_release_of_ne ?_
    rintro rfl
    exact unnamed name List.mem_cons_self found
  · rw [held]
    exact List.mem_of_ne_of_mem differs (entries.mem_iff.mp member)
  · rw [log, Heap.destroyedIn_last]

theorem Sound.assign_minds (sound : registry.Sound []) (found : registry.find? name = some address)
    (payload : α) :
    registry.Minds [name] (registry.onHeap (registry.heap.assign address payload)).state := by
  refine ⟨⟨sound.ordered, sound.counts.assign (sound.mem_held found) payload⟩, ?_,
    fun other _ unnamed => ?_⟩
  · exact Nat.le_of_eq (Heap.size_assign ..).symm
  · refine Heap.block?_assign_of_ne ?_ payload
    rintro rfl
    exact unnamed name List.mem_cons_self found

theorem Minds.trans {before between after : Registry α} {names : List String}
    (first : before.Minds names between) (second : between.Minds names after)
    (same : ∀ name, between.find? name = before.find? name) : before.Minds names after where
  sound := second.sound
  grows := Nat.le_trans first.grows second.grows
  others address inside unnamed := by
    rw [second.others address (Nat.lt_of_lt_of_le inside first.grows)
      fun name member => same name ▸ unnamed name member]
    exact first.others address inside unnamed

theorem Effect.minds {action : Action α} {stored : List α} {step : Step α Unit}
    (sound : registry.Sound []) (effect : registry.Effect action stored step) :
    registry.Minds action.names step.state := by
  cases effect with
  | nothing => exact .refl sound _
  | create name payload => exact (sound.create_minds name payload).1
  | clone target found => exact (sound.clone_minds found target).1
  | move target found => exact (sound.move_minds found target).1
  | drop found => exact (sound.drop_minds found).1
  | assign payload found => exact sound.assign_minds found payload
  | assignShared payload found => exact sound.assign_minds found payload
  | sendAway payload found =>
      cases payload with
      | none => exact (sound.drop_minds found).1
      | some payload =>
          have assigned := sound.assign_minds found payload
          exact assigned.trans (assigned.sound.drop_minds found).1 fun _ => rfl

theorem Effect.losesLast {action : Action α} {stored : List α} {step : Step α Unit}
    (sound : registry.Sound []) (effect : registry.Effect action stored step)
    (keeps : action.assigns = false) :
    registry.heap.LosesLast registry.held step.state.held (destroyedIn step.log) := by
  cases effect with
  | nothing => exact .of_kept (fun _ _ => sound.counts.mem_of_payload?) fun _ => id
  | create name payload => exact (sound.create_minds name payload).2
  | clone target found => exact (sound.clone_minds found target).2
  | move target found => exact (sound.move_minds found target).2
  | drop found => exact (sound.drop_minds found).2
  | assign => cases keeps
  | assignShared => cases keeps
  | sendAway payload found =>
      cases payload with
      | none => exact (sound.drop_minds found).2
      | some payload => cases keeps

/-- Payloads stay what they are, unless something is assigned. -/
theorem Effect.payload? {action : Action α} {stored : List α} {step : Step α Unit}
    (sound : registry.Sound []) (effect : registry.Effect action stored step)
    (keeps : action.assigns = false) (inside : address < registry.heap.blocks.size)
    (held : address ∈ step.state.held) :
    step.state.heap.payload? address = registry.heap.payload? address := by
  cases effect with
  | nothing => rfl
  | create name payload =>
      exact ((sound.allocate payload).bind_payload? name held).trans
        (Heap.payload?_allocate_of_ne (Nat.ne_of_lt inside) payload)
  | @clone _ shared target found =>
      have member := sound.mem_held found
      obtain ⟨block, lives, -⟩ := sound.counts.held shared member
      rw [clone_eq] at held ⊢
      exact ((sound.share member).bind_payload? target held).trans (Heap.payload?_share lives _)
  | move target found => exact (sound.forget found).bind_payload? target held
  | drop found => exact sound.drop_payload? found held
  | assign => cases keeps
  | assignShared => cases keeps
  | sendAway payload found =>
      cases payload with
      | none => exact sound.drop_payload? found held
      | some payload => cases keeps

theorem Sound.perform (sound : registry.Sound []) (action : Action α) :
    registry.Minds action.names (registry.perform action).state := by
  obtain ⟨effect, comes, state, -⟩ := perform_comesTo sound action
  rw [state]
  exact comes.minds sound

theorem Sound.perform_payload? (sound : registry.Sound []) {action : Action α}
    (keeps : action.assigns = false) (inside : address < registry.heap.blocks.size)
    (held : address ∈ (registry.perform action).state.held) :
    (registry.perform action).state.heap.payload? address =
      registry.heap.payload? address := by
  obtain ⟨effect, comes, state, -⟩ := perform_comesTo sound action
  rw [state] at held ⊢
  exact comes.payload? sound keeps inside held

theorem Sound.perform_losesLast (sound : registry.Sound []) {action : Action α}
    (keeps : action.assigns = false) :
    registry.heap.LosesLast registry.held (registry.perform action).state.held
      (registry.destroyedBy action) := by
  obtain ⟨effect, comes, state, log⟩ := perform_comesTo sound action
  rw [destroyedBy, state, log]
  exact comes.losesLast sound keeps

/-! Runs of actions. -/

theorem sound_empty : ({} : Registry α).Sound [] :=
  ⟨List.Pairwise.nil, Heap.counts_empty⟩

theorem Sound.after (sound : registry.Sound []) (actions : List (Action α)) :
    (registry.after actions).Sound [] := by
  induction actions generalizing registry with
  | nil => exact sound
  | cons action rest ih => exact ih (sound.perform action).sound

/-- A block that nobody holds any more never comes back. -/
theorem Sound.stays_gone (sound : registry.Sound []) (inside : address < registry.heap.blocks.size)
    (gone : address ∉ registry.held) (actions : List (Action α)) :
    address ∉ (registry.after actions).held := by
  induction actions generalizing registry with
  | nil => exact gone
  | cons action rest ih =>
      obtain ⟨next, grows, others⟩ := sound.perform action
      have unnamed (name : String) (_ : name ∈ action.names) :
          registry.find? name ≠ some address :=
        fun found => gone (sound.mem_held found)
      have absent := others address inside unnamed
      rw [sound.counts.gone address gone] at absent
      refine ih next (Nat.lt_of_lt_of_le inside grows) fun held => ?_
      have lives := (next.counts.isSome_iff address).mpr held
      rw [absent] at lives
      cases lives

end Registry

end Handoff.Handle
