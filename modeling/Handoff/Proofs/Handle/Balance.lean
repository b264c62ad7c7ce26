import Handoff.Proofs.Handle.Ownership
import Mathlib.Data.List.Perm.Basic

namespace Handoff.Handle

/-! Where payloads come from and where they go.  Each payload that is put into a block stays
there until it is destroyed, and it is destroyed once.
-/

namespace Heap

/-- The payloads of the blocks that live. -/
def payloads (heap : Heap α) : List α :=
  heap.blocks.toList.filterMap (Option.map Block.payload)

/-- What was there and what was put in is what was destroyed and what is there now. -/
def Balances (before : Heap α) (stored destroyed : List α) (after : Heap α) : Prop :=
  (stored ++ before.payloads).Perm (destroyed ++ after.payloads)

variable {heap between after : Heap α} {address : Address} {block : Block α}
  {stored destroyed : List α}

theorem Balances.refl (heap : Heap α) : heap.Balances [] [] heap :=
  List.Perm.refl _

theorem Balances.trans {more gone : List α} (first : heap.Balances stored destroyed between)
    (second : between.Balances more gone after) :
    heap.Balances (stored ++ more) (destroyed ++ gone) after := by
  have regrouped (front middle behind : List α) :
      (front ++ (middle ++ behind)).Perm (middle ++ (front ++ behind)) := by
    rw [← List.append_assoc, ← List.append_assoc]
    exact List.perm_append_comm.append_right behind
  rw [Balances, List.append_assoc, List.append_assoc]
  calc stored ++ (more ++ heap.payloads)
      |>.Perm (more ++ (stored ++ heap.payloads)) := regrouped ..
    _ |>.Perm (more ++ (destroyed ++ between.payloads)) := first.append_left more
    _ |>.Perm (destroyed ++ (more ++ between.payloads)) := regrouped ..
    _ |>.Perm (destroyed ++ (gone ++ after.payloads)) := second.append_left destroyed

theorem payloads_perm (found : heap.block? address = some block) (content : Option (Block α)) :
    ∃ others, heap.payloads.Perm (block.payload :: others) ∧
      (heap.store address content).payloads.Perm
        ((content.map Block.payload).toList ++ others) := by
  have inside : address < heap.blocks.toList.length := by simpa using lt_size_of_block? found
  have here : heap.blocks.toList[address] = some block := by
    have found := getElem?_of_block? found
    rw [← Array.getElem?_toList, List.getElem?_eq_getElem inside] at found
    exact Option.some.inj found
  have whole := List.getElem_cons_eraseIdx_perm inside
  have changed := List.set_perm_cons_eraseIdx inside content
  rw [here] at whole
  refine ⟨(heap.blocks.toList.eraseIdx address).filterMap (Option.map Block.payload),
    whole.symm.filterMap _, ?_⟩
  rw [payloads, store, Array.toList_setIfInBounds]
  refine (changed.filterMap _).trans (.of_eq ?_)
  cases content <;> rfl

/-- Something else is put in the place of a block. -/
theorem balances_store (found : heap.block? address = some block) (content : Option (Block α)) :
    heap.Balances (content.map Block.payload).toList [block.payload]
      (heap.store address content) := by
  obtain ⟨others, before, after⟩ := payloads_perm found content
  exact (before.append_left _).trans (List.perm_middle.trans (after.symm.cons _))

/-- A block is counted differently, which is nothing to its payload. -/
theorem balances_count (found : heap.block? address = some block) (holders : Nat) :
    heap.Balances [] [] (heap.store address (some { block with holders := holders })) :=
  (balances_store found (some { block with holders := holders })).cons_inv

theorem balances_allocate (heap : Heap α) (payload : α) :
    heap.Balances [payload] [] (heap.allocate payload).2 := by
  simp only [Balances, payloads, allocate, Array.toList_push, List.filterMap_append]
  exact List.perm_append_comm

theorem balances_share (heap : Heap α) (address : Address) :
    heap.Balances [] [] (heap.share address).2 := by
  rw [share]
  split
  · next found => exact balances_count found _
  · exact .refl heap

theorem balances_release (heap : Heap α) (address : Address) :
    heap.Balances [] (destroyedIn (heap.release address).log) (heap.release address).state := by
  rw [release]
  split
  · next found =>
      split
      · exact balances_store found none
      · exact balances_count found _
  · exact .refl heap

theorem balances_assign (found : heap.block? address = some block) (payload : α) :
    heap.Balances [payload] (destroyedIn (heap.assign address payload).log)
      (heap.assign address payload).state := by
  rw [assign_of_block? found]
  exact balances_store found (some { block with payload := payload })

theorem Counts.payloads_eq_nil (counts : heap.Counts []) : heap.payloads = [] := by
  apply List.filterMap_eq_nil_iff.mpr
  intro content member
  obtain ⟨address, inside, rfl⟩ := List.getElem_of_mem member
  have gone := counts.gone address List.not_mem_nil
  rw [block?, ← Array.getElem?_toList, List.getElem?_eq_getElem inside, Option.join_some] at gone
  rw [gone]
  rfl

end Heap

namespace Registry

variable {registry : Registry α} {name : String} {address : Address}

theorem balances_bind (registry : Registry α) (name : String) (address : Address) :
    registry.heap.Balances [] (destroyedIn (registry.bind name address).log)
      (registry.bind name address).state.heap := by
  rw [bind]
  split
  · exact Heap.balances_release ..
  · exact .refl _

theorem Sound.balances_assign (sound : registry.Sound [])
    (found : registry.find? name = some address) (payload : α) :
    registry.heap.Balances [payload] (destroyedIn (registry.heap.assign address payload).log)
      (registry.heap.assign address payload).state := by
  obtain ⟨block, lives, -⟩ := sound.counts.held address (sound.mem_held found)
  exact Heap.balances_assign lives payload

theorem Effect.balances {action : Action α} {stored : List α} {step : Step α Unit}
    (sound : registry.Sound []) (effect : registry.Effect action stored step) :
    registry.heap.Balances stored (destroyedIn step.log) step.state.heap := by
  cases effect with
  | nothing => exact .refl _
  | create name payload =>
      let heap := (registry.heap.allocate payload).2
      have bound := balances_bind { registry with heap } name registry.heap.blocks.size
      exact (Heap.balances_allocate registry.heap payload).trans bound
  | @clone _ address target found =>
      let heap := (registry.heap.share address).2
      have bound := balances_bind { registry with heap } target address
      rw [clone_eq]
      exact (Heap.balances_share registry.heap address).trans bound
  | @move name address target found =>
      exact balances_bind (registry.forget name) target address
  | drop found => exact Heap.balances_release ..
  | assign payload found => exact sound.balances_assign found payload
  | assignShared payload found => exact sound.balances_assign found payload
  | sendAway payload found =>
      cases payload with
      | none => exact Heap.balances_release ..
      | some payload =>
          rw [Registry.sendAway, Outcome.andThen_log, destroyedIn, List.filterMap_append]
          exact (sound.balances_assign found payload).trans (Heap.balances_release ..)

/-! Runs of actions. -/

/-- The payloads that a run puts into blocks. -/
def storedOver (registry : Registry α) : List (Action α) → List α
  | [] => []
  | action :: rest =>
      let step := registry.perform action
      action.stored step.result ++ storedOver step.state rest

/-- The payloads that a run destroys. -/
def destroyedOver (registry : Registry α) : List (Action α) → List α
  | [] => []
  | action :: rest =>
      registry.destroyedBy action ++ destroyedOver (registry.perform action).state rest

theorem Sound.balances_perform (sound : registry.Sound []) (action : Action α) :
    registry.heap.Balances (action.stored (registry.perform action).result)
      (registry.destroyedBy action) (registry.perform action).state.heap := by
  obtain ⟨effect, comes, state, log⟩ := perform_comesTo sound action
  rw [destroyedBy, log, state]
  exact comes.balances sound

theorem Sound.balances_over (sound : registry.Sound []) (actions : List (Action α)) :
    registry.heap.Balances (registry.storedOver actions) (registry.destroyedOver actions)
      (registry.after actions).heap := by
  induction actions generalizing registry with
  | nil => exact .refl _
  | cons action rest ih =>
      exact (sound.balances_perform action).trans (ih (sound.perform action).sound)

/-! The end of a run. -/

/-- Drops the handles one after the other. -/
theorem drop_rest {heap : Heap α} (entries : List (String × Address)) (done : Step α Unit)
    (sound : done.state.Sound []) (left : done.state.names = entries)
    (balances : heap.Balances [] (destroyedIn done.log) done.state.heap) :
    let last := entries.foldl (fun dropped (name, address) =>
      dropped.andThen fun _ registry => registry.drop name address) done
    last.state.names = [] ∧ last.state.Sound [] ∧
      heap.Balances [] (destroyedIn last.log) last.state.heap := by
  induction entries generalizing done with
  | nil => exact ⟨left, sound, balances⟩
  | cons entry rest ih =>
      obtain ⟨name, address⟩ := entry
      have found : done.state.find? name = some address := by
        rw [find?, left]
        exact List.lookup_cons_self
      have above := (List.pairwise_cons.mp (left ▸ sound.ordered)).1
      refine ih (done.andThen fun _ registry => registry.drop name address)
        (sound.drop found).1 ?_ ?_
      · change (done.state.forget name).names = rest
        rw [forget, left, List.filter_cons_of_neg (by simp)]
        exact Ordered.filter_above above (String.le_refl name)
      · rw [Outcome.andThen_log, destroyedIn, List.filterMap_append]
        exact balances.trans (Heap.balances_release ..)

theorem Sound.dropAll (sound : registry.Sound []) :
    registry.dropAll.state.names = [] ∧ registry.dropAll.state.Sound [] ∧
      registry.heap.Balances [] (destroyedIn registry.dropAll.log)
        registry.dropAll.state.heap :=
  drop_rest registry.names ⟨(), registry, []⟩ sound rfl (.refl _)

theorem Sound.payloads_eq_nil (sound : registry.Sound []) (dropped : registry.names = []) :
    registry.heap.payloads = [] := by
  have counts := sound.counts
  rw [held, dropped] at counts
  exact counts.payloads_eq_nil

end Registry

end Handoff.Handle
