import Handoff.Proofs.Handle.Ownership

namespace Handoff.Handle

/-! Handles that belong to threads.  Each access to a count is a step of its own, and the
threads take their steps in any order: between making a handle and dropping the one that it
is stored over, all the others may act.
-/

structure Threads (α : Type u) where
  heap : Heap α := {}
  /-- Each handle with the thread it belongs to. -/
  handles : List (Nat × Address) := []

inductive Touch (α : Type u) where
  | create (thread : Nat) (payload : α)
  | clone (thread : Nat) (address : Address)
  | pass (thread : Nat) (address : Address) (receiver : Nat)
  | drop (thread : Nat) (address : Address)

namespace Threads

abbrev Step (α : Type u) (ρ : Type v) := Outcome (Threads α) (Event α) ρ

/-- The handles that there are, whoever they belong to. -/
def held (threads : Threads α) : List Address :=
  threads.handles.map Prod.snd

/-- A thread can only use a handle that it has. -/
def withHandle (threads : Threads α) (thread : Nat) (address : Address)
    (act : Step α Unit) : Step α Unit :=
  if (thread, address) ∈ threads.handles then act else ⟨(), threads, []⟩

def touch (threads : Threads α) : Touch α → Step α Unit
  | .create thread payload =>
      let (address, heap) := threads.heap.allocate payload
      ⟨(), ⟨heap, (thread, address) :: threads.handles⟩, []⟩
  | .clone thread address =>
      let shared := threads.heap.share address
      threads.withHandle thread address
        ⟨(), ⟨shared.2, (thread, shared.1) :: threads.handles⟩, []⟩
  | .pass thread address receiver =>
      let left := threads.handles.erase (thread, address)
      threads.withHandle thread address ⟨(), ⟨threads.heap, (receiver, address) :: left⟩, []⟩
  | .drop thread address =>
      let left := threads.handles.erase (thread, address)
      let released := threads.heap.release address
      threads.withHandle thread address { released with state := ⟨released.state, left⟩ }

def after (threads : Threads α) (touches : List (Touch α)) : Threads α :=
  touches.foldl (fun threads touch => (threads.touch touch).state) threads

end Threads

/-- The block that an access is to, if there is one already. -/
def Touch.block? : Touch α → Option Address
  | .create _ _ => none
  | .clone _ address | .pass _ address _ | .drop _ address => some address

namespace Threads

/-- What an access does to handles and blocks. -/
structure Minds (before : Threads α) (touch : Touch α) (step : Step α Unit) : Prop where
  counts : step.state.heap.Counts step.state.held
  losesLast : before.heap.LosesLast before.held step.state.held (destroyedIn step.log)
  grows : before.heap.blocks.size ≤ step.state.heap.blocks.size
  made : ∀ address ∈ step.state.held, address ∈ before.held ∨ before.heap.blocks.size ≤ address
  others : ∀ address < before.heap.blocks.size, touch.block? ≠ some address →
    step.state.heap.block? address = before.heap.block? address

variable {threads : Threads α} {thread : Nat} {address : Address}

theorem held_perm (member : (thread, address) ∈ threads.handles) :
    threads.held.Perm (address :: (threads.handles.erase (thread, address)).map Prod.snd) :=
  (List.perm_cons_erase member).map Prod.snd

/-- A handle that is passed on is still there. -/
theorem Minds.of_same {touch : Touch α} {handles : List (Nat × Address)}
    (counts : threads.heap.Counts threads.held)
    (same : threads.held.Perm (handles.map Prod.snd)) :
    threads.Minds touch ⟨(), ⟨threads.heap, handles⟩, []⟩ where
  counts := counts.perm same
  losesLast := .of_kept (fun _ _ => counts.mem_of_payload?) fun _ => same.mem_iff.mp
  grows := Nat.le_refl _
  made _ member := .inl (same.mem_iff.mpr member)
  others _ _ _ := rfl

theorem withHandle_minds {touch : Touch α} {act : Step α Unit}
    (counts : threads.heap.Counts threads.held)
    (here : (thread, address) ∈ threads.handles → threads.Minds touch act) :
    threads.Minds touch (threads.withHandle thread address act) := by
  rw [withHandle]
  split
  · next member => exact here member
  · exact .of_same counts (.refl _)

theorem touch_minds (counts : threads.heap.Counts threads.held) (touch : Touch α) :
    threads.Minds touch (threads.touch touch) := by
  have lives (other : Address) (payload : α) :
      threads.heap.payload? other = some payload → other ∈ threads.held :=
    counts.mem_of_payload?
  cases touch with
  | create thread payload =>
      refine ⟨counts.allocate payload, .of_kept lives fun _ => List.mem_cons_of_mem _, ?_, ?_, ?_⟩
      · simp [Threads.touch, Heap.allocate]
      · rintro other (_ | ⟨_, member⟩)
        · exact .inr (Nat.le_refl _)
        · exact .inl member
      · intro other inside _
        exact (Heap.block?_allocate ..).trans (if_neg (Nat.ne_of_lt inside))
  | clone thread address =>
      refine withHandle_minds counts fun member => ?_
      have held : address ∈ threads.held := List.mem_map_of_mem member
      obtain ⟨same, shared⟩ := counts.share held
      rw [same]
      refine ⟨shared, .of_kept lives fun _ => List.mem_cons_of_mem _, ?_, ?_, ?_⟩
      · exact Nat.le_of_eq (Heap.size_share ..).symm
      · rintro other (_ | ⟨_, member⟩)
        · exact .inl held
        · exact .inl member
      · intro other _ differs
        exact Heap.block?_share_of_ne fun same => differs (congrArg some same.symm)
  | pass thread address receiver =>
      exact withHandle_minds counts fun member => .of_same counts (held_perm member)
  | drop thread address =>
      refine withHandle_minds counts fun member => ?_
      have entries := held_perm member
      obtain ⟨left, log⟩ := (counts.perm entries).release List.mem_cons_self
      rw [List.erase_cons_head] at left log
      refine ⟨left, .of_drop lives (entries.mem_iff.mpr List.mem_cons_self) ?_ ?_, ?_, ?_, ?_⟩
      · intro other held differs
        exact List.mem_of_ne_of_mem differs (entries.mem_iff.mp held)
      · rw [log, Heap.destroyedIn_last]
        rfl
      · exact Nat.le_of_eq (Heap.size_release ..).symm
      · exact fun other member => .inl (entries.mem_iff.mpr (List.mem_cons_of_mem _ member))
      · intro other _ differs
        exact Heap.block?_release_of_ne fun same => differs (congrArg some same.symm)

theorem after_counts (counts : threads.heap.Counts threads.held) (touches : List (Touch α)) :
    (threads.after touches).heap.Counts (threads.after touches).held := by
  induction touches generalizing threads with
  | nil => exact counts
  | cons touch rest ih => exact ih (touch_minds counts touch).counts

theorem counts_after (touches : List (Touch α)) :
    (({} : Threads α).after touches).heap.Counts (({} : Threads α).after touches).held :=
  after_counts Heap.counts_empty touches

/-- A block that nobody holds any more never comes back. -/
theorem stays_gone (counts : threads.heap.Counts threads.held)
    (inside : address < threads.heap.blocks.size) (gone : address ∉ threads.held)
    (touches : List (Touch α)) : address ∉ (threads.after touches).held := by
  induction touches generalizing threads with
  | nil => exact gone
  | cons touch rest ih =>
      obtain ⟨next, -, grows, made, -⟩ := touch_minds counts touch
      refine ih next (Nat.lt_of_lt_of_le inside grows) fun held => ?_
      exact (made address held).elim gone (Nat.not_le.mpr inside)

/-- Handles of threads are counted right, and what an access does shows at once. -/
structure Exact (threads : Threads α) : Prop where
  counts : threads.heap.Counts threads.held
  touches : ∀ touch : Touch α, threads.Minds touch (threads.touch touch)
  forever : ∀ address < threads.heap.blocks.size, address ∉ threads.held →
    ∀ further : List (Touch α), address ∉ (threads.after further).held

end Threads

namespace Registry

/-- Named handles are counted right, and what an action does shows at once. -/
structure Exact (registry : Registry α) : Prop where
  counts : registry.heap.Counts registry.held
  reported : (registry.live.map fun entry => (entry.1, entry.2.1)) =
    registry.names.map fun entry => (entry.1, registry.handles entry.2)
  named : ∀ action : Action α,
    (registry.perform action).state.find? = registry.standingAfter action
  losesLast : ∀ action : Action α, action.assigns = false →
    registry.heap.LosesLast registry.held (registry.perform action).state.held
      (registry.destroyedBy action)
  others : ∀ (action : Action α), ∀ address < registry.heap.blocks.size,
    (∀ name ∈ action.names, registry.find? name ≠ some address) →
      (registry.perform action).state.heap.block? address = registry.heap.block? address ∧
        (registry.perform action).state.handles address = registry.handles address
  forever : ∀ address < registry.heap.blocks.size, address ∉ registry.held →
    ∀ further : List (Action α), address ∉ (registry.after further).held
  clones : ∀ name address, registry.find? name = some address → ∀ count,
    registry.perform (.cloneMany name count) =
      ⟨.cloned (registry.handles address + count) true (registry.handles address), registry, []⟩
  rounds : ∀ name address, registry.find? name = some address → ∀ threads rounds,
    registry.perform (.shareAmong name threads rounds) =
      ⟨.count (registry.handles address), registry, []⟩

variable {registry : Registry α}

theorem Sound.live_eq (sound : registry.Sound []) :
    (registry.live.map fun entry => (entry.1, entry.2.1)) =
      registry.names.map fun entry => (entry.1, registry.handles entry.2) := by
  rw [live, List.map_filterMap, ← List.filterMap_eq_map]
  apply List.filterMap_congr
  intro entry member
  obtain ⟨block, found, count⟩ := sound.counts.held entry.2 (List.mem_map_of_mem member)
  simp [found, count, handles]

theorem Sound.exact (sound : registry.Sound []) : registry.Exact where
  counts := sound.counts
  reported := sound.live_eq
  named := registry.perform_find?
  losesLast _ := sound.perform_losesLast
  others action address inside unnamed := by
    obtain ⟨next, -, others⟩ := sound.perform action
    have same := others address inside unnamed
    refine ⟨same, ?_⟩
    calc (registry.perform action).state.handles address
        = (registry.perform action).state.heap.holders address :=
          (next.counts.holders_eq address).symm
      _ = registry.heap.holders address := by rw [Heap.holders, same, Heap.holders]
      _ = registry.handles address := sound.counts.holders_eq address
  forever _ := sound.stays_gone
  clones name address found count := by
    rw [Registry.perform, withHandle, found]
    exact cloneMany_eq sound found count
  rounds name address found threads rounds := by
    rw [Registry.perform, withHandle, found]
    exact shareAmong_eq sound found threads rounds

end Registry

/-- Whatever is done with handles, under names or by threads, every block counts its handles,
and its payload is destroyed with the last of them. -/
theorem handles_counted_exactly :
    (∀ actions : List (Action α), (({} : Registry α).after actions).Exact) ∧
      ∀ touches : List (Touch α), (({} : Threads α).after touches).Exact := by
  refine ⟨fun actions => (Registry.sound_empty.after actions).exact, fun touches => ?_⟩
  have counts := Threads.counts_after touches
  exact ⟨counts, Threads.touch_minds counts, fun _ => Threads.stays_gone counts⟩

/-- The clone of a handle gets another name, and then the first name is given to a new
block.  The old one goes with the clone. -/
theorem moved_clone_keeps_block :
    let reached := ({} : Registry Nat).after
      [.create "first" 7, .clone "first" "second", .move "second" "third"]
    reached.Exact ∧ reached.handles 0 = 2 ∧ reached.find? "second" = none ∧
      (reached.perform (.create "first" 8)).state.find? "first" = some 1 ∧
      (reached.perform (.create "first" 8)).state.find? "third" = some 0 ∧
      reached.destroyedBy (.create "first" 8) = [] ∧
      (reached.perform (.create "first" 8)).state.destroyedBy (.drop "third") = [7] := by
  intro reached
  have counted : reached.Exact := handles_counted_exactly.1 _
  have stored := counted.named (.create "first" 8)
  exact ⟨counted, by decide, by decide, (congrFun stored "first").trans (by decide),
    (congrFun stored "third").trans (by decide), by decide, by decide⟩

/-- A handle that is cloned onto itself stays the only one. -/
example : (({} : Registry Nat).after [.create "kept" 7, .clone "kept" "kept"]).live =
    [("kept", 1, 7)] := by
  decide

end Handoff.Handle
