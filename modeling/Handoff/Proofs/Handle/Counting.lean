import Handoff.Handle.Action
import Mathlib.Data.List.Perm.Basic

namespace Handoff.Handle

/-! What a block knows of its handles.  It counts them, and it lives exactly as long as
there is one.  A handle may be held under a name or only for the moment, by whoever is
just making or dropping it.
-/

namespace Heap

variable {heap : Heap α} {address other : Address} {block : Block α} {handles : List Address}
  {payload : α}

/-! Single blocks. -/

theorem lt_size_of_block? (found : heap.block? address = some block) :
    address < heap.blocks.size := by
  by_contra outside
  rw [block?, Array.getElem?_eq_none (Nat.le_of_not_lt outside)] at found
  cases found

theorem getElem?_of_block? (found : heap.block? address = some block) :
    heap.blocks[address]? = some (some block) := by
  have inside := lt_size_of_block? found
  rw [block?, Array.getElem?_eq_getElem inside, Option.join_some] at found
  rw [Array.getElem?_eq_getElem inside, found]

theorem block?_store (found : heap.block? address = some block) (content : Option (Block α))
    (other : Address) :
    (heap.store address content).block? other =
      if address = other then content else heap.block? other := by
  have inside := lt_size_of_block? found
  rw [block?, store, Array.getElem?_setIfInBounds, if_pos inside]
  split <;> rfl

theorem block?_allocate (heap : Heap α) (payload : α) (other : Address) :
    (heap.allocate payload).2.block? other =
      if other = heap.blocks.size then some ⟨1, payload⟩ else heap.block? other := by
  rw [block?, allocate, Array.getElem?_push]
  split <;> rfl

theorem size_store (heap : Heap α) (address : Address) (content : Option (Block α)) :
    (heap.store address content).blocks.size = heap.blocks.size :=
  Array.size_setIfInBounds

theorem store_store (heap : Heap α) (address : Address) (first second : Option (Block α)) :
    (heap.store address first).store address second = heap.store address second := by
  simp [store]

theorem store_self (found : heap.block? address = some block) :
    heap.store address (some block) = heap := by
  have same : heap.blocks.setIfInBounds address (some block) = heap.blocks := by
    apply Array.ext_getElem?
    intro index
    rw [Array.getElem?_setIfInBounds, if_pos (lt_size_of_block? found)]
    split
    · next here => rw [← here, getElem?_of_block? found]
    · rfl
  rw [store, same]

theorem holders_of_block? (found : heap.block? address = some block) :
    heap.holders address = block.holders := by
  simp [holders, found]

/-! What the operations come to on a block that lives. -/

theorem share_of_block? (found : heap.block? address = some block) :
    heap.share address =
      (address, heap.store address (some { block with holders := block.holders + 1 })) := by
  simp [share, found]

theorem payload?_share (found : heap.block? address = some block) (other : Address) :
    (heap.share address).2.payload? other = heap.payload? other := by
  rw [share_of_block? found, payload?, payload?, block?_store found]
  split
  · next same => rw [← same, found]; rfl
  · rfl

theorem payload?_allocate_of_ne (differs : address ≠ heap.blocks.size) (payload : α) :
    (heap.allocate payload).2.payload? address = heap.payload? address := by
  rw [payload?, block?_allocate, if_neg differs, payload?]

theorem payload?_allocate_self (heap : Heap α) (payload : α) :
    (heap.allocate payload).2.payload? heap.blocks.size = some payload := by
  rw [payload?, block?_allocate, if_pos rfl]
  rfl

theorem share_fst (heap : Heap α) (address : Address) : (heap.share address).1 = address := by
  rw [share]
  split <;> rfl

theorem release_of_last (found : heap.block? address = some block) (last : block.holders = 1) :
    heap.release address = ⟨(), heap.store address none, [.destroyed block.payload]⟩ := by
  simp [release, found, last]

theorem release_of_more (found : heap.block? address = some block) (more : block.holders ≠ 1) :
    heap.release address =
      ⟨(), heap.store address (some { block with holders := block.holders - 1 }), []⟩ := by
  simp [release, found, more]

theorem assign_of_block? (found : heap.block? address = some block) (payload : α) :
    heap.assign address payload =
      { result := ()
        state := heap.store address (some { block with payload := payload })
        log := [.destroyed block.payload] } := by
  simp [assign, found]

/-- A clone that is dropped at once was never there. -/
theorem cloneAndRelease_eq (found : heap.block? address = some block)
    (positive : 0 < block.holders) : heap.cloneAndRelease address = ⟨(), heap, []⟩ := by
  have shared := block?_store found (some { block with holders := block.holders + 1 }) address
  rw [if_pos rfl] at shared
  simp only [cloneAndRelease, share_of_block? found]
  rw [release_of_more shared (by simp; omega), store_store]
  simp [store_self found]

/-- What any number of clones at once come to. -/
theorem clones_eq (found : heap.block? address = some block) (count : Nat) :
    heap.clones address count =
      (List.replicate count address,
        heap.store address (some { block with holders := block.holders + count })) := by
  induction count with
  | zero => simp [clones, Nat.repeat, store_self found]
  | succ count ih =>
      have held := block?_store found (some { block with holders := block.holders + count }) address
      rw [if_pos rfl] at held
      rw [clones] at ih
      simp only [clones, Nat.repeat, ih, share_of_block? held, store_store]
      rfl

/-- Clones that are all dropped again were never there. -/
theorem releaseAll_clones (found : heap.block? address = some block)
    (positive : 0 < block.holders) (count : Nat) :
    (heap.store address (some { block with holders := block.holders + count })).releaseAll
        (List.replicate count address) = ⟨(), heap, []⟩ := by
  induction count with
  | zero => simp [releaseAll, store_self found]
  | succ count ih =>
      have held := block?_store found
        (some { block with holders := block.holders + (count + 1) }) address
      rw [if_pos rfl] at held
      have released : (heap.store address
            (some { block with holders := block.holders + (count + 1) })).release address =
          ⟨(), heap.store address (some { block with holders := block.holders + count }), []⟩ := by
        rw [release_of_more held (by simp; omega), store_store]
        rfl
      rw [releaseAll] at ih ⊢
      rw [List.replicate_succ, List.foldl_cons, Outcome.andThen, released]
      exact ih

theorem size_share (heap : Heap α) (address : Address) :
    (heap.share address).2.blocks.size = heap.blocks.size := by
  rw [share]
  split
  · exact size_store ..
  · rfl

theorem size_release (heap : Heap α) (address : Address) :
    (heap.release address).state.blocks.size = heap.blocks.size := by
  rw [release]
  split
  · split <;> exact size_store ..
  · rfl

theorem size_assign (heap : Heap α) (address : Address) (payload : α) :
    (heap.assign address payload).state.blocks.size = heap.blocks.size := by
  rw [assign]
  split
  · exact size_store ..
  · rfl

/-! All blocks. -/

/-- The handles are all that there are, each listed as often as it is held.  A block that
nobody holds is gone. -/
structure Counts (heap : Heap α) (handles : List Address) : Prop where
  held : ∀ address ∈ handles, ∃ block, heap.block? address = some block ∧
    block.holders = handles.count address
  gone : ∀ address, address ∉ handles → heap.block? address = none

theorem counts_empty : ({} : Heap α).Counts [] where
  held := by simp
  gone := by simp [block?]

theorem Counts.holders_eq (counts : heap.Counts handles) (address : Address) :
    heap.holders address = handles.count address := by
  by_cases held : address ∈ handles
  · obtain ⟨block, found, count⟩ := counts.held address held
    rw [holders_of_block? found, count]
  · rw [List.count_eq_zero_of_not_mem held, holders, counts.gone address held]
    rfl

theorem Counts.isSome_iff (counts : heap.Counts handles) (address : Address) :
    (heap.block? address).isSome = true ↔ address ∈ handles := by
  by_cases held : address ∈ handles
  · obtain ⟨block, found, -⟩ := counts.held address held
    simp [found, held]
  · simp [counts.gone address held, held]

theorem Counts.mem_of_payload? (counts : heap.Counts handles)
    (found : heap.payload? address = some payload) : address ∈ handles := by
  obtain ⟨block, found, -⟩ := Option.map_eq_some_iff.mp found
  exact (counts.isSome_iff address).mp (Option.isSome_iff_exists.mpr ⟨block, found⟩)

/-- Only the number of handles to each block matters. -/
theorem Counts.perm {others : List Address} (counts : heap.Counts handles)
    (same : handles.Perm others) : heap.Counts others where
  held address member := by
    obtain ⟨block, found, count⟩ := counts.held address (same.mem_iff.mpr member)
    exact ⟨block, found, count.trans (same.count_eq address)⟩
  gone address absent := counts.gone address (mt same.mem_iff.mp absent)

/-- What becomes of one block does not matter to the others. -/
theorem Counts.store {others : List Address} (counts : heap.Counts handles)
    (found : heap.block? address = some block) (content : Option (Block α))
    (here : address ∈ others → ∃ block, content = some block ∧
      block.holders = others.count address)
    (absent : address ∉ others → content = none)
    (there : ∀ other, other ≠ address → others.count other = handles.count other) :
    (heap.store address content).Counts others where
  held other member := by
    rw [block?_store found]
    split
    · next same => exact same ▸ here (same ▸ member)
    · next differs =>
        have count := there other (Ne.symm differs)
        obtain ⟨kept, found, holders⟩ := counts.held other
          (List.count_pos_iff.mp (count ▸ List.count_pos_iff.mpr member))
        exact ⟨kept, found, holders.trans count.symm⟩
  gone other missing := by
    rw [block?_store found]
    split
    · next same => exact absent (same ▸ missing)
    · next differs =>
        have count := there other (Ne.symm differs)
        rw [List.count_eq_zero_of_not_mem missing] at count
        exact counts.gone other (List.count_eq_zero.mp count.symm)

theorem Counts.fresh (counts : heap.Counts handles) : heap.blocks.size ∉ handles := by
  intro held
  obtain ⟨block, found, -⟩ := counts.held _ held
  exact absurd (lt_size_of_block? found) (Nat.lt_irrefl _)

theorem Counts.allocate (counts : heap.Counts handles) (payload : α) :
    (heap.allocate payload).2.Counts (heap.blocks.size :: handles) where
  held other member := by
    rw [block?_allocate]
    split
    · next same =>
        refine ⟨_, rfl, ?_⟩
        rw [same, List.count_cons_self, List.count_eq_zero_of_not_mem counts.fresh]
    · next differs =>
        obtain ⟨block, found, count⟩ := counts.held other (List.mem_of_ne_of_mem differs member)
        exact ⟨block, found, by rw [count, List.count_cons_of_ne (Ne.symm differs)]⟩
  gone other missing := by
    rw [List.mem_cons, not_or] at missing
    rw [block?_allocate, if_neg missing.1, counts.gone other missing.2]

theorem Counts.share (counts : heap.Counts handles) (held : address ∈ handles) :
    (heap.share address).1 = address ∧ (heap.share address).2.Counts (address :: handles) := by
  obtain ⟨block, found, count⟩ := counts.held address held
  rw [share_of_block? found]
  refine ⟨rfl, counts.store found _ (fun _ => ⟨_, rfl, ?_⟩) (by simp) fun other differs => ?_⟩
  · rw [List.count_cons_self, count]
  · rw [List.count_cons_of_ne (Ne.symm differs)]

/-- With the last handle, and only with it, the payload is destroyed. -/
theorem Counts.release (counts : heap.Counts handles) (held : address ∈ handles) :
    (heap.release address).state.Counts (handles.erase address) ∧
      (heap.release address).log =
        if address ∈ handles.erase address then []
        else ((heap.payload? address).map Event.destroyed).toList := by
  obtain ⟨block, found, count⟩ := counts.held address held
  have fewer : (handles.erase address).count address = block.holders - 1 := by
    rw [List.count_erase_self, count]
  have positive : 0 < block.holders := count ▸ List.count_pos_iff.mpr held
  have there (other : Address) (differs : other ≠ address) :
      (handles.erase address).count other = handles.count other :=
    List.count_erase_of_ne differs
  by_cases last : block.holders = 1
  · have absent : address ∉ handles.erase address :=
      List.count_eq_zero.mp (by omega)
    rw [release_of_last found last, if_neg absent, payload?, found]
    exact ⟨counts.store found none (absurd · absent) (fun _ => rfl) there, rfl⟩
  · have remains : address ∈ handles.erase address :=
      List.count_pos_iff.mp (by omega)
    rw [release_of_more found last, if_pos remains]
    exact ⟨counts.store found _ (fun _ => ⟨_, rfl, fewer.symm⟩) (absurd remains) there, rfl⟩

theorem Counts.assign (counts : heap.Counts handles) (held : address ∈ handles) (payload : α) :
    (heap.assign address payload).state.Counts handles := by
  obtain ⟨block, found, count⟩ := counts.held address held
  rw [assign_of_block? found]
  exact counts.store found _ (fun _ => ⟨_, rfl, count⟩) (absurd held) fun _ _ => rfl

/-! What an operation on one block does to the others. -/

theorem block?_share_of_ne (differs : other ≠ address) :
    (heap.share address).2.block? other = heap.block? other := by
  cases found : heap.block? address with
  | none => simp [Heap.share, found]
  | some block => rw [share_of_block? found, block?_store found, if_neg (Ne.symm differs)]

theorem block?_release_of_ne (differs : other ≠ address) :
    (heap.release address).state.block? other = heap.block? other := by
  cases found : heap.block? address with
  | none => simp [Heap.release, found]
  | some block =>
      rw [Heap.release, found]
      dsimp only
      split <;> rw [block?_store found, if_neg (Ne.symm differs)]

/-- Releasing a handle does not touch the payload of a block that lives on. -/
theorem payload?_release (lives : ((heap.release address).state.block? other).isSome) :
    (heap.release address).state.payload? other = heap.payload? other := by
  cases found : heap.block? address with
  | none => rw [release, found]
  | some block =>
      by_cases last : block.holders = 1
      · rw [release_of_last found last, block?_store found] at lives
        rw [release_of_last found last, payload?, block?_store found]
        split
        · next here => simp [here] at lives
        · rfl
      · rw [release_of_more found last, payload?, block?_store found]
        split
        · next here => rw [payload?, ← here, found]; rfl
        · rfl

theorem block?_assign_of_ne (differs : other ≠ address) (payload : α) :
    (heap.assign address payload).state.block? other = heap.block? other := by
  cases found : heap.block? address with
  | none => simp [Heap.assign, found]
  | some block => rw [assign_of_block? found, block?_store found, if_neg (Ne.symm differs)]

end Heap

end Handoff.Handle
