import Handoff.Proofs.Ring.Coherence

namespace Handoff.Ring

/-! The sending thread keeps the ring coherent, one access after the other.
-/

namespace Interleaving

variable {run : Interleaving α} {bound : Nat} {value : α} {cursor oldest cache : Cursor}
  {stage : SendStage α}

/-- An access that only tells the sender something. -/
theorem Coherent.moveSender (coherent : run.Coherent bound)
    (before : ∀ accepted held, run.sending.mark accepted held = held)
    (after : ∀ accepted held, stage.mark accepted held = held)
    (cache_le : cache.toNat ≤ run.departed) (near : run.accepted.size ≤ cache.toNat + bound)
    (knows : ({ run with receiveCache := cache, sending := stage } : Interleaving α).SenderKnows
      bound) :
    ({ run with receiveCache := cache, sending := stage } : Interleaving α).Coherent bound :=
  { coherent with
    receiveCache_le := cache_le
    near := near
    sending := knows
    hold := by
      have hold := coherent.hold
      rw [held, before] at hold
      rw [held, after]
      exact hold }

theorem Coherent.full_iff (coherent : run.Coherent bound) (here : cursor.toNat = run.accepted.size)
    (cache_le : cache.toNat ≤ run.departed) :
    (cache.distanceTo cursor == run.memory.mask) = true ↔
      run.accepted.size = cache.toNat + bound := by
  have departed_le := coherent.departed_le
  have few := coherent.few
  rw [coherent.mask.distanceTo_beq_iff (by omega) (by omega), here]

theorem Coherent.readClosed (coherent : run.Coherent bound)
    (stage : run.sending = .readClosed value) : run.stepSender.Coherent bound := by
  have quiet : ∀ accepted held, run.sending.mark accepted held = held := by
    simp [stage, SendStage.mark]
  cases closed : run.memory.closed with
  | true =>
      have next : run.stepSender = run.refuseSend (.closed value) := by
        simp [stepSender, stage, closed]
      rw [next]
      exact coherent.moveSender quiet (by simp [SendStage.mark]) coherent.receiveCache_le
        coherent.near trivial
  | false =>
      have next : run.stepSender = { run with sending := .readSend value } := by
        simp [stepSender, stage, closed]
      rw [next]
      exact coherent.moveSender quiet (by simp [SendStage.mark]) coherent.receiveCache_le
        coherent.near trivial

theorem Coherent.readSend (coherent : run.Coherent bound) (stage : run.sending = .readSend value) :
    run.stepSender.Coherent bound := by
  have quiet : ∀ accepted held, run.sending.mark accepted held = held := by
    simp [stage, SendStage.mark]
  have full_iff := coherent.full_iff coherent.newest coherent.receiveCache_le
  cases full : run.receiveCache.distanceTo run.memory.sendCursor == run.memory.mask with
  | true =>
      have next : run.stepSender =
          { run with sending := .refresh value run.memory.sendCursor } := by
        simp [stepSender, stage, seemsFull, full]
      rw [next]
      exact coherent.moveSender quiet (by simp [SendStage.mark]) coherent.receiveCache_le
        coherent.near coherent.newest
  | false =>
      have room : run.accepted.size < run.receiveCache.toNat + bound :=
        Nat.lt_of_le_of_ne coherent.near (by simpa [full] using full_iff.symm)
      have next : run.stepSender = { run with sending := .write value run.memory.sendCursor } := by
        simp [stepSender, stage, seemsFull, full]
      rw [next]
      exact coherent.moveSender quiet (by simp [SendStage.mark]) coherent.receiveCache_le
        coherent.near ⟨coherent.newest, room⟩

theorem Coherent.refresh (coherent : run.Coherent bound)
    (stage : run.sending = .refresh value cursor) : run.stepSender.Coherent bound := by
  have here : cursor.toNat = run.accepted.size := by
    simpa [SenderKnows, stage] using coherent.sending
  have quiet : ∀ accepted held, run.sending.mark accepted held = held := by
    simp [stage, SendStage.mark]
  have position := coherent.position_toNat
  have near : run.accepted.size ≤ run.memory.receiveCursor.position.toNat + bound := by
    rw [position]
    exact coherent.near_departed
  have full_iff := coherent.full_iff here (Nat.le_of_eq position)
  cases full : run.memory.receiveCursor.position.distanceTo cursor == run.memory.mask with
  | true =>
      cases policy : run.overflow with
      | wait =>
          have next : run.stepSender =
              ({ run with receiveCache := run.memory.receiveCursor.position } :
                Interleaving α).refuseSend (.full value) := by
            simp [stepSender, stage, seemsFull, full, policy]
          rw [next]
          exact coherent.moveSender quiet (by simp [SendStage.mark]) (Nat.le_of_eq position)
            near trivial
      | overwrite =>
          have next : run.stepSender =
              { run with
                receiveCache := run.memory.receiveCursor.position
                sending := .inspect value cursor } := by
            simp [stepSender, stage, seemsFull, full, policy]
          rw [next]
          exact coherent.moveSender quiet (by simp [SendStage.mark]) (Nat.le_of_eq position)
            near ⟨policy, here⟩
  | false =>
      have room : run.accepted.size < run.memory.receiveCursor.position.toNat + bound :=
        Nat.lt_of_le_of_ne near (by simpa [full] using full_iff.symm)
      have next : run.stepSender =
          { run with
            receiveCache := run.memory.receiveCursor.position
            sending := .write value cursor } := by
        simp [stepSender, stage, seemsFull, full]
      rw [next]
      exact coherent.moveSender quiet (by simp [SendStage.mark]) (Nat.le_of_eq position)
        near ⟨here, room⟩

theorem Coherent.inspect (coherent : run.Coherent bound)
    (stage : run.sending = .inspect value cursor) : run.stepSender.Coherent bound := by
  obtain ⟨overwrites, here⟩ : run.overflow = .overwrite ∧ cursor.toNat = run.accepted.size := by
    simpa [SenderKnows, stage] using coherent.sending
  have quiet : ∀ accepted held, run.sending.mark accepted held = held := by
    simp [stage, SendStage.mark]
  cases claimed : run.memory.receiveCursor.isClaimed with
  | true =>
      have next : run.stepSender = run := by simp [stepSender, stage, claimed]
      rw [next]
      exact coherent
  | false =>
      obtain ⟨there, -⟩ := coherent.unlocked overwrites claimed
      have near := coherent.near_departed
      have departed_le := coherent.departed_le
      have few := coherent.few
      have roomy_iff := coherent.mask.distanceTo_lt_iff
        (show run.memory.receiveCursor.toNat ≤ cursor.toNat by omega) (by omega)
      rw [here, there] at roomy_iff
      by_cases roomy : run.memory.receiveCursor.distanceTo cursor < run.memory.mask
      · have room : run.accepted.size < run.memory.receiveCursor.toNat + bound := by
          rw [there]
          exact roomy_iff.mp roomy
        have next : run.stepSender =
            { run with
              receiveCache := run.memory.receiveCursor
              sending := .write value cursor } := by
          simp [stepSender, stage, claimed, roomy]
        rw [next]
        exact coherent.moveSender quiet (by simp [SendStage.mark]) (Nat.le_of_eq there)
          (Nat.le_of_lt room) ⟨here, room⟩
      · have full : run.memory.receiveCursor.toNat + bound ≤ run.accepted.size := by
          rw [there]
          exact Nat.le_of_not_lt (mt roomy_iff.mpr roomy)
        have next : run.stepSender =
            { run with sending := .overtake value cursor run.memory.receiveCursor } := by
          simp [stepSender, stage, claimed, roomy]
        rw [next]
        exact coherent.moveSender quiet (by simp [SendStage.mark]) coherent.receiveCache_le
          coherent.near ⟨overwrites, here, claimed, full⟩

theorem Coherent.receiver_overtaken {after : Interleaving α} (coherent : run.Coherent bound)
    (overwrites : run.overflow = .overwrite)
    (unclaimed : run.memory.receiveCursor.isClaimed = false)
    (receiving : after.receiving = run.receiving) (overflow : after.overflow = run.overflow)
    (accepted : after.accepted = run.accepted) (departed : after.departed = run.departed + 1)
    (moved : after.memory.receiveCursor.toNat = run.departed + 1) : after.ReceiverKnows := by
  have knows := coherent.receiving
  obtain ⟨-, taking, releasing⟩ := coherent.unlocked overwrites unclaimed
  simp only [ReceiverKnows, receiving, overflow, overwrites, accepted, departed, moved] at knows ⊢
  split at knows
  · exact ⟨trivial, Nat.le_succ_of_le knows.2.1, by simp⟩
  · exact ⟨trivial, Nat.le_succ_of_le knows.2.1, by simp⟩
  · exact ⟨trivial, Nat.le_succ_of_le knows.2.1, by simp⟩
  · exact ⟨trivial, trivial, Nat.le_succ_of_le knows.2.2.1, knows.2.2.2⟩
  · next stage => exact absurd stage (taking _)
  · next stage => exact absurd stage (releasing _ _)
  · trivial

/-- Only the receive cursor that was read is exchanged, and only if nobody else moved or
claimed it. -/
theorem Coherent.overtake (coherent : run.Coherent bound)
    (stage : run.sending = .overtake value cursor oldest) : run.stepSender.Coherent bound := by
  obtain ⟨overwrites, here, unclaimed, far⟩ : run.overflow = .overwrite ∧
      cursor.toNat = run.accepted.size ∧ oldest.isClaimed = false ∧
        oldest.toNat + bound ≤ run.accepted.size := by
    simpa [SenderKnows, stage] using coherent.sending
  have quiet : ∀ accepted held, run.sending.mark accepted held = held := by
    simp [stage, SendStage.mark]
  by_cases same : run.memory.receiveCursor = oldest
  · -- the cursor is where it was when the ring was found full, so it still is full
    obtain ⟨there, taking, releasing⟩ := coherent.unlocked overwrites (same ▸ unclaimed)
    have near := coherent.near_departed
    have roomy := coherent.mask.roomy
    have few := coherent.few
    rw [same] at there
    have inside : run.departed < run.accepted.size := by omega
    have advanced := Cursor.toNat_advance_of_le (show oldest.toNat ≤ Cursor.horizon by omega)
    have kept := coherent.held_eq (Nat.le_of_eq there.symm) (there ▸ inside)
      fun oldest value stage => absurd stage (releasing oldest value)
    have present : run.held oldest.toNat = some run.accepted[run.departed] := by
      rw [kept, there, Array.getElem?_eq_getElem inside]
    have found := coherent.peek_eq (Option.isSome_of_eq_some present)
    let after : Interleaving α :=
      { run with
        memory := run.memory.moveReceive oldest.advance
        sending := .destroy value cursor oldest
        discarded := run.discarded.push run.accepted[run.departed] }
    have next : run.stepSender = after := by
      have peeked : (run.memory.moveReceive oldest.advance).peek oldest =
          some run.accepted[run.departed] := found.trans present
      simp [stepSender, stage, Memory.exchangeReceive?, same, peeked, after]
    have departed : after.departed = run.departed + 1 := by
      simp [Interleaving.departed, after, Nat.add_assoc]
    have between : Function.update after.between oldest.toNat run.accepted[oldest.toNat]? =
        run.between := by
      rw [← update_between (show after.accepted = run.accepted from rfl) departed, there,
        Function.update_idem, Function.update_eq_self_iff, between_departed inside,
        Array.getElem?_eq_getElem inside]
    have moved : after.memory.receiveCursor.toNat = run.departed + 1 := by
      rw [← there]
      exact advanced
    rw [next]
    exact
      { coherent with
        departed_le := by
          rw [departed]
          exact inside
        receiveCache_le := by
          have lagging := coherent.receiveCache_le
          change run.receiveCache.toNat ≤ _
          omega
        sending := ⟨overwrites, here, by change _ = run.accepted.size; omega, by omega⟩
        receiving := coherent.receiver_overtaken overwrites (same ▸ unclaimed) rfl rfl rfl departed
          moved
        hold := by
          have hold := coherent.hold
          rw [held, quiet, ← between] at hold
          exact hold
        accounts := by
          refine coherent.accounts.leave (.overwritten run.accepted[run.departed] run.departed)
            (Array.getElem?_eq_getElem inside) rfl rfl departed ?_ Array.toList_push
          exact (List.append_nil _).symm }
  · have next : run.stepSender = { run with sending := .inspect value cursor } := by
      simp [stepSender, stage, Memory.exchangeReceive?, same]
    rw [next]
    exact coherent.moveSender quiet (by simp [SendStage.mark]) coherent.receiveCache_le
      coherent.near ⟨overwrites, here⟩

theorem Coherent.destroying (coherent : run.Coherent bound)
    (stage : run.sending = .destroy value cursor oldest) :
    cursor.toNat = run.accepted.size ∧ oldest.toNat + bound = run.accepted.size ∧
      oldest.toNat < run.departed := by
  have knows := coherent.sending
  simp only [SenderKnows, stage] at knows
  exact knows.2

/-- What the sender destroys is beyond the reach of the receiver, and in its slot. -/
theorem Coherent.held_destroy (coherent : run.Coherent bound)
    (stage : run.sending = .destroy value cursor oldest) :
    run.held = Function.update (run.receiving.mark run.between) oldest.toNat
        run.accepted[oldest.toNat]? ∧
      ∃ element, run.accepted[oldest.toNat]? = some element := by
  obtain ⟨-, -, gone⟩ := coherent.destroying stage
  have departed_le := coherent.departed_le
  refine ⟨?_, _, Array.getElem?_eq_getElem (by omega)⟩
  rw [held, stage]
  exact coherent.mark_update (by omega) _ _

theorem Coherent.destroy (coherent : run.Coherent bound)
    (stage : run.sending = .destroy value cursor oldest) : run.stepSender.Coherent bound := by
  obtain ⟨here, far, gone⟩ := coherent.destroying stage
  have departed_le := coherent.departed_le
  have few := coherent.few
  have advanced := Cursor.toNat_advance_of_le (show oldest.toNat ≤ Cursor.horizon by omega)
  -- the element is no longer between the cursors, only its slot still has it
  have rest : run.receiving.mark run.between oldest.toNat = none := by
    apply Option.not_isSome_iff_eq_none.mp
    intro present
    have inside := isSome_between.mp (isSome_mark present)
    omega
  obtain ⟨marked, element, found⟩ := coherent.held_destroy stage
  have present : run.held oldest.toNat = some element := by
    rw [marked, Function.update_self, found]
  obtain ⟨-, taken⟩ := coherent.hold.take present
  rw [marked, Function.update_idem, Function.update_eq_self_iff.mpr rest.symm] at taken
  have next : run.stepSender =
      { run with
        memory := (run.memory.take oldest).2
        receiveCache := oldest.advance
        sending := .write value cursor
        log :=
          run.log ++ (run.memory.take oldest).1.toArray.map .destroyed ++
            #[.noted (.oldestOverwritten oldest.toNat)] } := by
    simp [stepSender, stage]
  rw [next, Memory.take_eq run.memory coherent.mask]
  have cache_le : oldest.advance.toNat ≤ run.departed := by omega
  have room : run.accepted.size < oldest.advance.toNat + bound := by omega
  exact
    { coherent with
      receiveCache_le := cache_le
      near := Nat.le_of_lt room
      sending := ⟨here, room⟩
      hold := taken }

theorem Coherent.writing (coherent : run.Coherent bound)
    (stage : run.sending = .write value cursor) :
    cursor.toNat = run.accepted.size ∧ run.accepted.size < run.receiveCache.toNat + bound := by
  simpa [SenderKnows, stage] using coherent.sending

theorem Coherent.write_free (coherent : run.Coherent bound)
    (stage : run.sending = .write value cursor) (other : Nat) (present : (run.held other).isSome) :
    other % (bound + 1) ≠ cursor.toNat % (bound + 1) := by
  obtain ⟨here, room⟩ := coherent.writing stage
  have lagging := coherent.receiveCache_le
  rw [held, stage] at present
  obtain ⟨lower, upper⟩ := isSome_between.mp (isSome_mark present)
  exact mod_ne_of_lt_of_lt (by omega) (by omega)

theorem Coherent.write (coherent : run.Coherent bound)
    (stage : run.sending = .write value cursor) : run.stepSender.Coherent bound := by
  obtain ⟨here, room⟩ := coherent.writing stage
  have unmarked : run.held = run.receiving.mark run.between := by
    rw [held, stage]
    rfl
  have written := coherent.hold.write value (coherent.write_free stage)
  have next : run.stepSender =
      { run with memory := run.memory.write cursor value, sending := .publish value cursor } := by
    simp [stepSender, stage]
  rw [next]
  exact
    { coherent with
      sending := ⟨here, room⟩
      hold := by
        rw [Memory.slots_write run.memory coherent.mask]
        rw [unmarked, ← coherent.mark_update (by omega)] at written
        exact written }

theorem Coherent.publish (coherent : run.Coherent bound)
    (stage : run.sending = .publish value cursor)
    (few : run.accepted.size < Cursor.horizon) : run.stepSender.Coherent bound := by
  obtain ⟨here, room⟩ : cursor.toNat = run.accepted.size ∧
      run.accepted.size < run.receiveCache.toNat + bound := by
    simpa [SenderKnows, stage] using coherent.sending
  have advanced := Cursor.toNat_advance_of_le (show cursor.toNat ≤ Cursor.horizon by omega)
  have departed_le := coherent.departed_le
  let after : Interleaving α :=
    { run with
      memory := run.memory.moveSend cursor.advance
      sending := .idle (some (.ok ()))
      accepted := run.accepted.push value
      log := run.log.push (.notified .receiver) }
  have next : run.stepSender = after := by simp [stepSender, stage, after]
  rw [next]
  have size : after.accepted.size = run.accepted.size + 1 := by simp [after]
  have departed : after.departed = run.departed := rfl
  have between := update_between_push (show after.accepted = run.accepted.push value from rfl)
    departed departed_le
  exact
    { coherent with
      few := by omega
      newest := by
        rw [size, ← here]
        exact advanced
      departed_le := by omega
      near := by
        rw [size]
        exact room
      sendCache_le := by
        have seen := coherent.sendCache_le
        rw [size]
        exact Nat.le_succ_of_le seen
      sending := trivial
      receiving := by
        have knows := coherent.receiving
        simp only [ReceiverKnows, after] at knows ⊢
        split at knows
        · exact knows
        · exact knows
        · exact knows
        · exact ⟨knows.1, knows.2.1, knows.2.2.1, by simp; omega⟩
        · exact ⟨knows.1, knows.2.1, by simp; omega⟩
        · refine ⟨knows.1, knows.2.1, ?_⟩
          obtain ⟨inside, found⟩ := Array.getElem?_eq_some_iff.mp knows.2.2
          rw [Array.getElem?_push, if_neg (by omega)]
          exact knows.2.2
        · exact knows
      hold := by
        have hold := coherent.hold
        rw [held, stage, SendStage.mark, here, between] at hold
        exact hold
      accounts := by
        obtain ⟨exits, values, unfreed, received, discarded⟩ := coherent.accounts
        refine ⟨exits, ?_, unfreed, received, discarded⟩
        rw [values, departed]
        simp [after, List.take_append_of_le_length, departed_le] }

theorem Coherent.stepSender (coherent : run.Coherent bound)
    (few : run.stepSender.accepted.size ≤ Cursor.horizon) : run.stepSender.Coherent bound := by
  cases stage : run.sending with
  | idle last =>
      have next : run.stepSender = run := by simp [Interleaving.stepSender, stage]
      rw [next]
      exact coherent
  | gone =>
      have next : run.stepSender = run := by simp [Interleaving.stepSender, stage]
      rw [next]
      exact coherent
  | readClosed value => exact coherent.readClosed stage
  | readSend value => exact coherent.readSend stage
  | refresh value cursor => exact coherent.refresh stage
  | inspect value cursor => exact coherent.inspect stage
  | overtake value cursor oldest => exact coherent.overtake stage
  | destroy value cursor oldest => exact coherent.destroy stage
  | write value cursor => exact coherent.write stage
  | publish value cursor =>
      refine coherent.publish stage ?_
      simpa [Interleaving.stepSender, stage, Nat.succ_le_iff] using few

theorem Coherent.startSend (coherent : run.Coherent bound) (value : α) :
    (run.startSend value).Coherent bound := by
  unfold Interleaving.startSend
  split
  · next last stage =>
      exact coherent.moveSender (by simp [stage, SendStage.mark]) (by simp [SendStage.mark])
        coherent.receiveCache_le coherent.near trivial
  · exact coherent

theorem Coherent.dropSender (coherent : run.Coherent bound) : run.dropSender.Coherent bound := by
  unfold Interleaving.dropSender
  split
  · next last stage =>
      exact (show run.shut.Coherent bound from { coherent with }).moveSender
        (by simp [shut, stage, SendStage.mark]) (by simp [SendStage.mark])
        coherent.receiveCache_le coherent.near trivial
  · exact coherent

end Interleaving

end Handoff.Ring
