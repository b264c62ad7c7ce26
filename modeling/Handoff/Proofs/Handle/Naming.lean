import Handoff.Proofs.Handle.Counting
import Mathlib.Logic.Function.Basic

namespace Handoff.Handle

/-! Handles under names.  The names are kept in ascending order, so that each of them
stands for one handle, and putting a handle under a name takes away exactly the one that
was there.
-/

namespace Registry

/-- Each name comes before those behind it, and so none comes twice. -/
def Ordered (names : List (String × Address)) : Prop :=
  names.Pairwise fun first second => first.1 < second.1

/-- The handles that have a name. -/
def held (registry : Registry α) : List Address :=
  registry.names.map Prod.snd

/-- How many handles to a block there are. -/
def handles (registry : Registry α) (address : Address) : Nat :=
  registry.held.count address

/-- Some handles are just being made or dropped and have no name. -/
structure Sound (registry : Registry α) (loose : List Address) : Prop where
  ordered : Ordered registry.names
  counts : registry.heap.Counts (loose ++ registry.held)

variable {registry : Registry α} {names : List (String × Address)} {name : String}
  {address : Address}

theorem Ordered.filter_above {low : String} (above : ∀ entry ∈ names, low < entry.1)
    (least : name ≤ low) : (names.filter fun entry => entry.1 != name) = names := by
  apply List.filter_eq_self.mpr
  intro entry member
  rw [bne_iff_ne]
  rintro rfl
  exact String.not_lt.mpr least (above entry member)

theorem Ordered.insertName (ordered : Ordered names) (name : String) (address : Address) :
    Ordered (Registry.insertName name address names) ∧
      (Registry.insertName name address names).Perm
        ((name, address) :: names.filter fun entry => entry.1 != name) := by
  induction names with
  | nil => exact ⟨List.pairwise_singleton _ _, .refl _⟩
  | cons entry rest ih =>
      obtain ⟨other, kept⟩ := entry
      obtain ⟨above, later⟩ := List.pairwise_cons.mp ordered
      rw [Registry.insertName]
      split
      · next same =>
          subst same
          rw [List.filter_cons_of_neg (by simp), Ordered.filter_above above (String.le_refl name)]
          exact ⟨List.pairwise_cons.mpr ⟨above, later⟩, .refl _⟩
      · next differs =>
          have unlike : (other != name) = true := bne_iff_ne.mpr (Ne.symm differs)
          split
          · next before =>
              have all : ∀ entry ∈ (other, kept) :: rest, name < entry.1 := by
                intro entry member
                rcases List.mem_cons.mp member with rfl | member
                · exact before
                · exact String.lt_trans before (above entry member)
              rw [Ordered.filter_above all (String.le_refl name)]
              exact ⟨List.pairwise_cons.mpr ⟨all, ordered⟩, .refl _⟩
          · next notBefore =>
              obtain ⟨sorted, entries⟩ := ih later
              have stays : ((other, kept) :: rest).filter (fun entry => entry.1 != name) =
                  (other, kept) :: rest.filter fun entry => entry.1 != name :=
                List.filter_cons_of_pos unlike
              rw [stays]
              refine ⟨List.pairwise_cons.mpr ⟨?_, sorted⟩,
                (entries.cons _).trans (.swap _ _ _)⟩
              intro entry member
              rcases List.mem_cons.mp (entries.mem_iff.mp member) with rfl | member
              · exact Std.lt_of_le_of_ne (String.not_lt.mp notBefore) (Ne.symm differs)
              · exact above entry (List.mem_of_mem_filter member)

theorem Ordered.lookup_perm (ordered : Ordered names) (found : names.lookup name = some address) :
    names.Perm ((name, address) :: names.filter fun entry => entry.1 != name) := by
  obtain ⟨before, behind, rfl, earlier⟩ := List.lookup_eq_some_iff.mp found
  obtain ⟨-, later, -⟩ := List.pairwise_append.mp ordered
  obtain ⟨above, -⟩ := List.pairwise_cons.mp later
  have first : (before.filter fun entry => entry.1 != name) = before := by
    apply List.filter_eq_self.mpr
    exact fun entry member => bne_comm.trans (earlier entry member)
  rw [List.filter_append, first, List.filter_cons_of_neg (by simp),
    Ordered.filter_above above (String.le_refl name)]
  exact List.perm_middle

/-- No name stands for two handles. -/
theorem Ordered.lookup_of_mem (ordered : Ordered names) (member : (name, address) ∈ names) :
    names.lookup name = some address := by
  obtain ⟨before, behind, rfl⟩ := List.append_of_mem member
  obtain ⟨-, -, above⟩ := List.pairwise_append.mp ordered
  refine List.lookup_eq_some_iff.mpr ⟨before, behind, rfl, fun entry earlier => ?_⟩
  have less := above entry earlier (name, address) List.mem_cons_self
  exact bne_iff_ne.mpr (String.ne_of_lt less).symm

theorem forget_of_none (absent : registry.find? name = none) : registry.forget name = registry := by
  have kept : (registry.names.filter fun entry => entry.1 != name) = registry.names := by
    apply List.filter_eq_self.mpr
    exact fun entry member => bne_comm.trans (List.lookup_eq_none_iff.mp absent entry member)
  rw [forget, kept]

/-! What each name stands for. -/

theorem lookup_first (kept other : String) (held : Address) (rest : List (String × Address)) :
    List.lookup other ((kept, held) :: rest) =
      if other = kept then some held else rest.lookup other := by
  rw [List.lookup_cons]
  split
  · next same => rw [if_pos (beq_iff_eq.mp same)]
  · next differs => rw [if_neg (beq_eq_false_iff_ne.mp differs)]

theorem lookup_insertName (names : List (String × Address)) (name other : String)
    (address : Address) :
    (insertName name address names).lookup other =
      if other = name then some address else names.lookup other := by
  induction names with
  | nil => rw [insertName, lookup_first]
  | cons entry rest ih =>
      obtain ⟨kept, held⟩ := entry
      rw [insertName, lookup_first]
      split
      · next same =>
          rw [lookup_first, same]
          split <;> rfl
      · next differs =>
          -- Another name comes first.  The new entry goes before it or somewhere behind it.
          split
          · rw [lookup_first, lookup_first]
          · rw [lookup_first, ih]
            by_cases here : other = kept
            · have apart : other ≠ name := fun there => differs (there.symm.trans here)
              rw [if_pos here, if_neg apart, if_pos here]
            · rw [if_neg here, if_neg here]

theorem find?_forget (registry : Registry α) (name : String) :
    (registry.forget name).find? = Function.update registry.find? name none := by
  funext other
  rw [Function.update_apply, find?, find?, forget]
  induction registry.names with
  | nil => exact (ite_self none).symm
  | cons entry rest ih =>
      obtain ⟨kept, held⟩ := entry
      rw [lookup_first]
      by_cases same : kept = name
      · rw [List.filter_cons_of_neg (by simp [same]), ih, same]
        split <;> rfl
      · rw [List.filter_cons_of_pos (by simp [same]), lookup_first, ih]
        by_cases here : other = kept
        · rw [if_pos here, if_pos here, if_neg (here ▸ same)]
        · rw [if_neg here, if_neg here]

theorem find?_bind (registry : Registry α) (name : String) (address : Address) :
    (registry.bind name address).state.find? =
      Function.update registry.find? name (some address) := by
  have named : (registry.bind name address).state.names =
      insertName name address registry.names := by
    rw [bind]
    split <;> rfl
  funext other
  rw [Function.update_apply, find?, named, lookup_insertName, find?]

theorem find?_create (registry : Registry α) (name : String) (payload : α) :
    (registry.create name payload).state.find? =
      Function.update registry.find? name (some registry.heap.blocks.size) :=
  find?_bind ..

/-- The clone has the address of the handle that was cloned. -/
theorem clone_eq (registry : Registry α) (address : Address) (target : String) :
    registry.clone address target =
      Registry.bind { registry with heap := (registry.heap.share address).2 } target address :=
  congrArg (Registry.bind _ target) (Heap.share_fst registry.heap address)

theorem find?_clone (registry : Registry α) (address : Address) (target : String) :
    (registry.clone address target).state.find? =
      Function.update registry.find? target (some address) := by
  rw [clone_eq]
  exact find?_bind ..

theorem find?_move (registry : Registry α) (name : String) (address : Address) (target : String) :
    (registry.move name address target).state.find? =
      Function.update (Function.update registry.find? name none) target (some address) := by
  rw [move, find?_bind, find?_forget]

theorem find?_drop (registry : Registry α) (name : String) (address : Address) :
    (registry.drop name address).state.find? = Function.update registry.find? name none :=
  find?_forget registry name

/-! The handles that have a name. -/

theorem Sound.held_perm {loose : List Address} (sound : registry.Sound loose)
    (found : registry.find? name = some address) :
    registry.held.Perm (address :: (registry.forget name).held) :=
  (sound.ordered.lookup_perm found).map Prod.snd

theorem Sound.mem_held {loose : List Address} (sound : registry.Sound loose)
    (found : registry.find? name = some address) : address ∈ registry.held :=
  (sound.held_perm found).mem_iff.mpr List.mem_cons_self

theorem Sound.mem_held_iff {loose : List Address} (sound : registry.Sound loose) :
    address ∈ registry.held ↔ ∃ name, registry.find? name = some address := by
  refine ⟨fun member => ?_, fun ⟨name, found⟩ => sound.mem_held found⟩
  obtain ⟨⟨name, _⟩, entry, rfl⟩ := List.mem_map.mp member
  exact ⟨name, sound.ordered.lookup_of_mem entry⟩

/-- A handle that loses its name is still there. -/
theorem Sound.forget {loose : List Address} (sound : registry.Sound loose)
    (found : registry.find? name = some address) :
    (registry.forget name).Sound (address :: loose) where
  ordered := sound.ordered.filter _
  counts := by
    refine sound.counts.perm ?_
    exact ((sound.held_perm found).append_left loose).trans List.perm_middle

theorem Sound.mem_of_mem_forget {other : Address} {loose : List Address}
    (sound : registry.Sound loose) (found : registry.find? name = some address)
    (member : other ∈ (registry.forget name).held) : other ∈ registry.held :=
  (sound.held_perm found).mem_iff.mpr (List.mem_cons_of_mem _ member)

/-- A name gets a new handle, and the one that it stood for is dropped. -/
theorem Sound.bind (sound : registry.Sound [address]) (name : String) :
    let step := registry.bind name address
    step.state.Sound [] ∧
      step.state.held.Perm (address :: (registry.forget name).held) ∧
      (registry.find? name = none ∧ step.state.heap = registry.heap ∧ step.log = [] ∨
        ∃ old, registry.find? name = some old ∧
          step.state.heap = (registry.heap.release old).state ∧
          step.log =
            if old ∈ step.state.held then []
            else ((registry.heap.payload? old).map Event.destroyed).toList) := by
  obtain ⟨ordered, entries⟩ := sound.ordered.insertName name address
  have renamed : (Registry.insertName name address registry.names |>.map Prod.snd).Perm
      (address :: (registry.forget name).held) := entries.map Prod.snd
  cases found : registry.find? name with
  | none =>
      rw [forget_of_none found] at renamed ⊢
      rw [Registry.bind, found]
      exact ⟨⟨ordered, sound.counts.perm renamed.symm⟩, renamed, .inl ⟨rfl, rfl, rfl⟩⟩
  | some old =>
      have counts := sound.counts.perm
        (((sound.held_perm found).append_left [address]).trans (.swap _ _ _))
      obtain ⟨released, log⟩ := counts.release List.mem_cons_self
      rw [List.erase_cons_head] at released log
      rw [Registry.bind, found]
      refine ⟨⟨ordered, released.perm renamed.symm⟩, renamed, .inr ⟨old, rfl, rfl, ?_⟩⟩
      exact log.trans (if_congr renamed.mem_iff.symm rfl rfl)

/-- Dropping a handle leaves alone the payloads that somebody still holds. -/
theorem Sound.payload?_of_release {heap : Heap α} {old other : Address}
    (sound : registry.Sound []) (released : registry.heap = (heap.release old).state)
    (held : other ∈ registry.held) : registry.heap.payload? other = heap.payload? other := by
  have lives := (sound.counts.isSome_iff other).mpr held
  rw [released] at lives ⊢
  exact Heap.payload?_release lives

theorem Sound.bind_payload? {other : Address} (sound : registry.Sound [address]) (name : String)
    (held : other ∈ (registry.bind name address).state.held) :
    (registry.bind name address).state.heap.payload? other = registry.heap.payload? other := by
  obtain ⟨bound, -, ⟨-, heap, -⟩ | ⟨old, -, heap, -⟩⟩ := sound.bind name
  · rw [heap]
  · exact bound.payload?_of_release heap held

/-- A block was made, and its handle has no name yet. -/
theorem Sound.allocate (sound : registry.Sound []) (payload : α) :
    Registry.Sound { registry with heap := (registry.heap.allocate payload).2 }
      [registry.heap.blocks.size] :=
  ⟨sound.ordered, sound.counts.allocate payload⟩

/-- A handle was cloned, and the clone has no name yet. -/
theorem Sound.share (sound : registry.Sound []) (member : address ∈ registry.held) :
    Registry.Sound { registry with heap := (registry.heap.share address).2 } [address] :=
  ⟨sound.ordered, (sound.counts.share member).2⟩

theorem Sound.drop (sound : registry.Sound []) (found : registry.find? name = some address) :
    let step := registry.drop name address
    step.state.Sound [] ∧ step.state.held = (registry.forget name).held ∧
      step.state.heap = (registry.heap.release address).state ∧
      step.log =
        if address ∈ step.state.held then []
        else ((registry.heap.payload? address).map Event.destroyed).toList := by
  have forgotten := sound.forget found
  obtain ⟨released, log⟩ := forgotten.counts.release List.mem_cons_self
  rw [List.singleton_append, List.erase_cons_head] at released log
  exact ⟨⟨forgotten.ordered, released⟩, rfl, rfl, log⟩

theorem Sound.drop_payload? {other : Address} (sound : registry.Sound [])
    (found : registry.find? name = some address)
    (held : other ∈ (registry.drop name address).state.held) :
    (registry.drop name address).state.heap.payload? other = registry.heap.payload? other := by
  obtain ⟨left, -, heap, -⟩ := sound.drop found
  exact left.payload?_of_release heap held

end Registry

end Handoff.Handle
