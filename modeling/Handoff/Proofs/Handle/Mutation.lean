import Handoff.Proofs.Handle.Balance

namespace Handoff.Handle

/-! Assigning through handles.  All handles to a block see what is assigned through one of
them, and nobody else does.  Whether there are other handles is read off a count, and so the
count has to be right for a checked assignment to stay private.
-/

namespace Heap

variable {heap : Heap α} {address : Address} {block : Block α}

theorem payload?_assign (found : heap.block? address = some block) (payload : α)
    (there : Address) :
    (heap.assign address payload).state.payload? there =
      if address = there then some payload else heap.payload? there := by
  rw [assign_of_block? found, payload?, block?_store found]
  split <;> rfl

theorem holders_assign (found : heap.block? address = some block) (payload : α)
    (there : Address) :
    (heap.assign address payload).state.holders there = heap.holders there := by
  rw [assign_of_block? found, holders, holders, block?_store found]
  split
  · next here => rw [← here, found]; rfl
  · rfl

end Heap

/-- What is read where there is a payload, or none. -/
def Answer.ofPayload : Option α → Answer α
  | some payload => .payloads payload payload payload
  | none => .gone

namespace Registry

/-- Both names stand for handles to the same block, as the handles themselves tell. -/
def Aliases (registry : Registry α) (name other : String) : Prop :=
  (registry.perform (.sameBlock name other)).result = .truth true

/-- What is read through the handle under a name. -/
def reading (registry : Registry α) (name : String) : Answer α :=
  (registry.perform (.read name)).result

/-- A payload was assigned through a name. -/
structure Writes (before : Registry α) (name : String) (payload : α)
    (step : Step α (Answer α)) : Prop where
  seen : ∀ other, before.Aliases name other →
    step.state.reading other = .payloads payload payload payload
  unseen : ∀ other, ¬before.Aliases name other →
    step.state.reading other = before.reading other
  destroys : ∃ old, before.reading name = .payloads old old old ∧ step.log = [.destroyed old]
  names : step.state.names = before.names
  holders : ∀ address, step.state.heap.holders address = before.heap.holders address

variable {registry : Registry α} {name other : String} {address : Address}

theorem aliases_iff : registry.Aliases name other ↔
    ∃ address, registry.find? name = some address ∧ registry.find? other = some address := by
  simp only [Aliases, perform, withHandle]
  cases registry.find? name with
  | none => simp
  | some first =>
      cases registry.find? other with
      | none => simp
      | some second => simp [eq_comm (a := second)]

theorem aliases_of_found (found : registry.find? name = some address) :
    registry.Aliases name other ↔ registry.find? other = some address := by
  simp [aliases_iff, found]

theorem reading_eq (registry : Registry α) (name : String) :
    registry.reading name = .ofPayload ((registry.find? name).bind registry.heap.payload?) := by
  simp only [reading, perform, withHandle]
  cases registry.find? name with
  | none => rfl
  | some address =>
      dsimp only [Option.bind_some]
      cases registry.heap.payload? address <;> rfl

theorem Sound.writes (sound : registry.Sound []) (found : registry.find? name = some address)
    (payload : α) (answer : Unit → Answer α) :
    registry.Writes name payload
      ((registry.onHeap (registry.heap.assign address payload)).mapResult answer) := by
  obtain ⟨block, lives, -⟩ := sound.counts.held address (sound.mem_held found)
  have payloads := funext (Heap.payload?_assign lives payload)
  have reads (other : String) : ((registry.onHeap
      (registry.heap.assign address payload)).mapResult answer).state.reading other =
        .ofPayload ((registry.find? other).bind fun there =>
          if address = there then some payload else registry.heap.payload? there) := by
    rw [← payloads]
    exact reading_eq ..
  constructor
  · intro other shared
    rw [reads, (aliases_of_found found).mp shared, Option.bind_some, if_pos rfl]
    rfl
  · intro other stranger
    rw [reads, reading_eq]
    cases held : registry.find? other with
    | none => rfl
    | some there =>
        have differs : address ≠ there := by
          rintro rfl
          exact stranger ((aliases_of_found found).mpr held)
        rw [Option.bind_some, Option.bind_some, if_neg differs]
  · refine ⟨block.payload, ?_, congrArg Outcome.log (Heap.assign_of_block? lives payload)⟩
    rw [reading_eq, found, Option.bind_some, Heap.payload?, lives]
    rfl
  · rfl
  · exact Heap.holders_assign lives payload

/-- There is no other handle to the block if the count says so, and only then. -/
theorem Sound.alone_iff (sound : registry.Sound []) (found : registry.find? name = some address) :
    registry.heap.holders address = 1 ↔ ∀ other, registry.Aliases name other → other = name := by
  have forgotten := sound.forget found
  have count : registry.heap.holders address = (registry.forget name).held.count address + 1 := by
    rw [sound.counts.holders_eq, List.nil_append, (sound.held_perm found).count_eq,
      List.count_cons_self]
  calc registry.heap.holders address = 1
      ↔ address ∉ (registry.forget name).held := by rw [← List.count_eq_zero]; omega
    _ ↔ ∀ other, ¬(registry.forget name).find? other = some address := by
        rw [forgotten.mem_held_iff, not_exists]
    _ ↔ ∀ other, registry.Aliases name other → other = name := by
        refine forall_congr' fun other => ?_
        rw [find?_forget, Function.update_apply, aliases_of_found found]
        split <;> simp_all

theorem Sound.perform_assign (sound : registry.Sound [])
    (found : registry.find? name = some address) (payload : α) :
    (∀ other, registry.Aliases name other → other = name) ∧
        (registry.perform (.assign name payload)).result = .truth true ∧
        registry.Writes name payload (registry.perform (.assign name payload)) ∨
      (¬∀ other, registry.Aliases name other → other = name) ∧
        registry.perform (.assign name payload) = ⟨.truth false, registry, []⟩ := by
  have alone := sound.alone_iff found
  rw [Registry.perform, withHandle, found]
  dsimp only
  rw [Heap.assignUnique]
  split
  · next one => exact .inl ⟨alone.mp one, rfl, sound.writes found payload fun _ => .truth true⟩
  · next more => exact .inr ⟨mt alone.mpr more, rfl⟩

/-- What assigning through handles does, whatever was done with them before. -/
structure Respects (registry : Registry α) : Prop where
  named : ∀ action : Action α,
    (registry.perform action).state.find? = registry.standingAfter action
  aliases : ∀ name other, registry.Aliases name other ↔
    ∃ address, registry.find? name = some address ∧ registry.find? other = some address
  reads : ∀ name, registry.reading name =
    .ofPayload ((registry.find? name).bind registry.heap.payload?)
  created : ∀ name payload,
    (registry.perform (.create name payload)).state.reading name =
      .payloads payload payload payload
  kept : ∀ action : Action α, action.assigns = false →
    ∀ address < registry.heap.blocks.size, address ∈ (registry.perform action).state.held →
      (registry.perform action).state.heap.payload? address = registry.heap.payload? address
  granted : ∀ name payload, registry.find? name ≠ none →
    ((registry.perform (.assign name payload)).result = .truth true ↔
      ∀ other, registry.Aliases name other → other = name)
  refused : ∀ name payload, registry.find? name ≠ none →
    (registry.perform (.assign name payload)).result ≠ .truth true →
      registry.perform (.assign name payload) = ⟨.truth false, registry, []⟩
  checked : ∀ name payload, (registry.perform (.assign name payload)).result = .truth true →
    registry.Writes name payload (registry.perform (.assign name payload))
  unseen : ∀ name payload, (registry.perform (.assign name payload)).result = .truth true →
    ∀ other, other ≠ name →
      (registry.perform (.assign name payload)).state.reading other = registry.reading other
  unchecked : ∀ name payload, registry.find? name ≠ none →
    registry.Writes name payload (registry.perform (.assignShared name payload))
  sent : ∀ name payload, registry.find? name ≠ none →
    let written := registry.perform (.assignShared name payload)
    let dropped := written.state.perform (.drop name)
    registry.perform (.sendAway name (some payload)) =
      ⟨.away (written.log ++ dropped.log), dropped.state, []⟩

/-- Every payload that a run stores is destroyed once, when its block goes or another payload
takes its place. -/
structure Conserves (actions : List (Action α)) (reached : Registry α) : Prop where
  live : (storedOver {} actions).Perm (destroyedOver {} actions ++ reached.heap.payloads)
  dropped : reached.names = [] → (storedOver {} actions).Perm (destroyedOver {} actions)
  ended : (storedOver {} actions).Perm
    (destroyedOver {} actions ++ destroyedIn reached.dropAll.log)

theorem find?_of_granted {payload : α}
    (granted : (registry.perform (.assign name payload)).result = .truth true) :
    ∃ address, registry.find? name = some address := by
  rw [perform, withHandle] at granted
  split at granted
  · next address found => exact ⟨address, found⟩
  · cases granted

theorem Sound.reading_created (sound : registry.Sound []) (name : String) (payload : α) :
    (registry.perform (.create name payload)).state.reading name =
      .payloads payload payload payload := by
  have found : (registry.perform (.create name payload)).state.find? name =
      some registry.heap.blocks.size := by
    rw [perform_find?, standingAfter, Function.update_self]
  have held := (sound.perform (.create name payload)).sound.mem_held found
  have stored := ((sound.allocate payload).bind_payload? name held).trans
    (Heap.payload?_allocate_self registry.heap payload)
  rw [reading_eq, found]
  exact congrArg Answer.ofPayload stored

theorem Sound.respects (sound : registry.Sound []) : registry.Respects where
  named := registry.perform_find?
  aliases _ _ := aliases_iff
  reads := registry.reading_eq
  created := sound.reading_created
  kept _ keeps _ := sound.perform_payload? keeps
  granted name payload named := by
    obtain ⟨address, found⟩ := Option.ne_none_iff_exists'.mp named
    rcases sound.perform_assign found payload with ⟨alone, granted, -⟩ | ⟨others, refused⟩
    · exact iff_of_true granted alone
    · exact iff_of_false (by rw [refused]; simp) others
  refused name payload named notGranted := by
    obtain ⟨address, found⟩ := Option.ne_none_iff_exists'.mp named
    rcases sound.perform_assign found payload with ⟨-, granted, -⟩ | ⟨-, refused⟩
    · exact absurd granted notGranted
    · exact refused
  checked name payload granted := by
    obtain ⟨address, found⟩ := find?_of_granted granted
    rcases sound.perform_assign found payload with ⟨-, -, writes⟩ | ⟨-, refused⟩
    · exact writes
    · rw [refused] at granted
      cases granted
  unseen name payload granted other differs := by
    obtain ⟨address, found⟩ := find?_of_granted granted
    rcases sound.perform_assign found payload with ⟨alone, -, writes⟩ | ⟨-, refused⟩
    · exact writes.unseen other fun shared => differs (alone other shared)
    · rw [refused]
  unchecked name payload named := by
    obtain ⟨address, found⟩ := Option.ne_none_iff_exists'.mp named
    rw [Registry.perform, withHandle, found]
    exact sound.writes found payload fun _ => .done
  sent name payload named := by
    obtain ⟨address, found⟩ := Option.ne_none_iff_exists'.mp named
    have still : (registry.onHeap (registry.heap.assign address payload)).state.find? name =
        some address := found
    simp [Registry.perform, withHandle, found, still, sendAway]

theorem conserves (actions : List (Action α)) :
    Conserves actions (({} : Registry α).after actions) := by
  have sound := sound_empty.after actions
  have live : (storedOver {} actions).Perm
      (destroyedOver {} actions ++ (({} : Registry α).after actions).heap.payloads) := by
    simpa [Heap.Balances, Heap.payloads] using sound_empty.balances_over actions
  refine ⟨live, fun dropped => ?_, ?_⟩
  · rw [sound.payloads_eq_nil dropped, List.append_nil] at live
    exact live
  · obtain ⟨none, left, ends⟩ := sound.dropAll
    rw [Heap.Balances, left.payloads_eq_nil none, List.nil_append, List.append_nil] at ends
    exact live.trans (ends.append_left _)

/-- Assigning through handles respects who else has one, and of what is stored nothing is
lost and nothing destroyed twice. -/
theorem assignments_respect_aliases (actions : List (Action α)) :
    (({} : Registry α).after actions).Respects ∧
      Conserves actions (({} : Registry α).after actions) :=
  ⟨(sound_empty.after actions).respects, conserves actions⟩

/-- Two names share a block, and a third stands for another.  Only the third may assign. -/
theorem second_name_refuses_assignment :
    let reached := ({} : Registry Nat).after
      [.create "first" 7, .clone "first" "second", .create "third" 8]
    reached.Respects ∧ reached.Aliases "first" "second" ∧ ¬reached.Aliases "first" "third" ∧
      reached.perform (.assign "first" 9) = ⟨.truth false, reached, []⟩ ∧
      reached.Writes "third" 9 (reached.perform (.assign "third" 9)) ∧
      (reached.perform (.assign "third" 9)).state.reading "second" = .payloads 7 7 7 ∧
      reached.Writes "first" 9 (reached.perform (.assignShared "first" 9)) := by
  intro reached
  obtain ⟨respects, -⟩ : reached.Respects ∧ _ := assignments_respect_aliases _
  have shared : reached.Aliases "first" "second" := by
    refine (respects.aliases ..).mpr ⟨0, ?_, ?_⟩ <;> decide
  have refused : (reached.perform (.assign "first" 9)).result ≠ .truth true := by decide
  have granted : (reached.perform (.assign "third" 9)).result = .truth true := by decide
  refine ⟨respects, shared, ?_, respects.refused "first" 9 (by decide) refused,
    respects.checked "third" 9 granted, ?_, respects.unchecked "first" 9 (by decide)⟩
  · rw [Registry.Aliases]
    decide
  · rw [respects.unseen "third" 9 granted "second" (by decide)]
    decide

end Registry

end Handoff.Handle
