import Handoff.Proofs.Ring.Coherence

namespace Handoff.Ring

/-! The receiving thread keeps the ring coherent, one access after the other.
-/

namespace Interleaving

variable {run : Interleaving α} {bound position : Nat} {value : α}
  {cursor oldest cache : Cursor} {stage : ReceiveStage α}

/-- An access that only tells the receiver something. -/
theorem Coherent.moveReceiver (coherent : run.Coherent bound)
    (before : ∀ held, run.receiving.mark held = held) (after : ∀ held, stage.mark held = held)
    (cache_le : cache.toNat ≤ run.accepted.size)
    (knows : ({ run with sendCache := cache, receiving := stage } :
      Interleaving α).ReceiverKnows) :
    ({ run with sendCache := cache, receiving := stage } : Interleaving α).Coherent bound :=
  { coherent with
    sendCache_le := cache_le
    receiving := knows
    hold := by
      have hold := coherent.hold
      rw [held, before] at hold
      rw [held, after]
      exact hold }

/-- What the receiver must know to go for the element at `oldest`. -/
theorem Coherent.approach (coherent : run.Coherent bound)
    (before : ∀ held, run.receiving.mark held = held)
    (cache_le : cache.toNat ≤ run.accepted.size)
    (there : run.memory.receiveCursor.toNat = run.departed) (behind : oldest.toNat ≤ run.departed)
    (level : run.overflow = .wait → oldest.toNat = run.departed)
    (inside : oldest.toNat < run.accepted.size) :
    (({ run with sendCache := cache } : Interleaving α).approach oldest).Coherent bound := by
  have policies : run.overflow = .wait ∨ run.overflow = .overwrite := by
    cases run.overflow <;> simp
  -- in a ring that waits nobody else moves the receive cursor, and no claim is needed
  rcases policies with policy | policy
  · have same : run.memory.receiveCursor = oldest := by
      apply Cursor.ext_toNat
      rw [there, level policy]
    have locked : run.memory.receiveCursor = lockOf run.overflow oldest := by
      rw [policy]
      exact same
    have next : ({ run with sendCache := cache } : Interleaving α).approach oldest =
        { run with sendCache := cache, receiving := .take oldest } := by
      simp [Interleaving.approach, policy]
    rw [next]
    exact coherent.moveReceiver before (by simp [ReceiveStage.mark]) cache_le
      ⟨locked, level policy, inside⟩
  · have next : ({ run with sendCache := cache } : Interleaving α).approach oldest =
        { run with sendCache := cache, receiving := .claim oldest } := by
      simp [Interleaving.approach, policy]
    rw [next]
    exact coherent.moveReceiver before (by simp [ReceiveStage.mark]) cache_le
      ⟨policy, there, behind, inside⟩

theorem Coherent.readReceive (coherent : run.Coherent bound)
    (stage : run.receiving = .readReceive) : run.stepReceiver.Coherent bound := by
  have there : run.memory.receiveCursor.toNat = run.departed := by
    simpa [ReceiverKnows, stage] using coherent.receiving
  have quiet : ∀ held, run.receiving.mark held = held := by simp [stage, ReceiveStage.mark]
  have few := coherent.few
  have departed_le := coherent.departed_le
  have near := coherent.near_departed
  have seen := coherent.sendCache_le
  have stocked_iff := coherent.mask.stocked_iff
    (show run.memory.receiveCursor.toNat ≤ Cursor.horizon by omega)
    (show run.sendCache.toNat ≤ Cursor.horizon by omega) (by omega)
  cases stocked : run.seemsStocked run.memory.receiveCursor with
  | true =>
      have ahead := stocked_iff.mp stocked
      have next : run.stepReceiver = run.approach run.memory.receiveCursor := by
        simp [stepReceiver, stage, stocked]
      rw [next]
      exact coherent.approach quiet seen there (Nat.le_of_eq there) (fun _ => there) (by omega)
  | false =>
      have next : run.stepReceiver =
          { run with receiving := .readSend run.memory.receiveCursor } := by
        simp [stepReceiver, stage, stocked]
      rw [next]
      exact coherent.moveReceiver quiet (by simp [ReceiveStage.mark]) seen
        ⟨there, Nat.le_of_eq there, fun _ => there⟩

theorem Coherent.inside_of_ne (coherent : run.Coherent bound)
    (behind : oldest.toNat ≤ run.departed) (different : run.memory.sendCursor ≠ oldest) :
    oldest.toNat < run.accepted.size := by
  have departed_le := coherent.departed_le
  refine Nat.lt_of_le_of_ne (by omega) fun same => different ?_
  apply Cursor.ext_toNat
  rw [coherent.newest, same]

theorem Coherent.readSend_receiver (coherent : run.Coherent bound)
    (stage : run.receiving = .readSend oldest) : run.stepReceiver.Coherent bound := by
  obtain ⟨there, behind, level⟩ : run.memory.receiveCursor.toNat = run.departed ∧
      oldest.toNat ≤ run.departed ∧ (run.overflow = .wait → oldest.toNat = run.departed) := by
    simpa [ReceiverKnows, stage] using coherent.receiving
  have quiet : ∀ held, run.receiving.mark held = held := by simp [stage, ReceiveStage.mark]
  by_cases same : run.memory.sendCursor = oldest
  · have next : run.stepReceiver = { run with receiving := .readClosed oldest } := by
      simp [stepReceiver, stage, same]
    rw [next]
    exact coherent.moveReceiver quiet (by simp [ReceiveStage.mark]) coherent.sendCache_le
      ⟨there, behind, level⟩
  · have next : run.stepReceiver =
        ({ run with sendCache := run.memory.sendCursor } : Interleaving α).approach oldest := by
      simp [stepReceiver, stage, same]
    rw [next]
    exact coherent.approach quiet (Nat.le_of_eq coherent.newest) there behind level
      (coherent.inside_of_ne behind same)

theorem Coherent.readClosed_receiver (coherent : run.Coherent bound)
    (stage : run.receiving = .readClosed oldest) : run.stepReceiver.Coherent bound := by
  have knows : run.memory.receiveCursor.toNat = run.departed ∧
      oldest.toNat ≤ run.departed ∧ (run.overflow = .wait → oldest.toNat = run.departed) := by
    simpa [ReceiverKnows, stage] using coherent.receiving
  have quiet : ∀ held, run.receiving.mark held = held := by simp [stage, ReceiveStage.mark]
  cases closed : run.memory.closed with
  | true =>
      have next : run.stepReceiver = { run with receiving := .readSendAgain oldest } := by
        simp [stepReceiver, stage, closed]
      rw [next]
      exact coherent.moveReceiver quiet (by simp [ReceiveStage.mark]) coherent.sendCache_le knows
  | false =>
      have next : run.stepReceiver = run.refuseReceive .empty := by
        simp [stepReceiver, stage, closed]
      rw [next]
      exact coherent.moveReceiver quiet (by simp [ReceiveStage.mark]) coherent.sendCache_le knows.1

theorem Coherent.readSendAgain (coherent : run.Coherent bound)
    (stage : run.receiving = .readSendAgain oldest) : run.stepReceiver.Coherent bound := by
  obtain ⟨there, behind, level⟩ : run.memory.receiveCursor.toNat = run.departed ∧
      oldest.toNat ≤ run.departed ∧ (run.overflow = .wait → oldest.toNat = run.departed) := by
    simpa [ReceiverKnows, stage] using coherent.receiving
  have quiet : ∀ held, run.receiving.mark held = held := by simp [stage, ReceiveStage.mark]
  by_cases same : run.memory.sendCursor = oldest
  · have next : run.stepReceiver = run.refuseReceive .closed := by simp [stepReceiver, stage, same]
    rw [next]
    exact coherent.moveReceiver quiet (by simp [ReceiveStage.mark]) coherent.sendCache_le there
  · have next : run.stepReceiver =
        ({ run with sendCache := run.memory.sendCursor } : Interleaving α).approach oldest := by
      simp [stepReceiver, stage, same]
    rw [next]
    exact coherent.approach quiet (Nat.le_of_eq coherent.newest) there behind level
      (coherent.inside_of_ne behind same)

/-- The exchange succeeds only if nobody took the element away in the meantime. -/
theorem Coherent.claim (coherent : run.Coherent bound) (stage : run.receiving = .claim oldest) :
    run.stepReceiver.Coherent bound := by
  obtain ⟨overwrites, there, -, inside⟩ : run.overflow = .overwrite ∧
      run.memory.receiveCursor.toNat = run.departed ∧ oldest.toNat ≤ run.departed ∧
        oldest.toNat < run.accepted.size := by
    simpa [ReceiverKnows, stage] using coherent.receiving
  have quiet : ∀ held, run.receiving.mark held = held := by simp [stage, ReceiveStage.mark]
  by_cases same : run.memory.receiveCursor = oldest
  · have next : run.stepReceiver =
        { run with memory := run.memory.moveReceive oldest.claim, receiving := .take oldest } := by
      simp [stepReceiver, stage, Memory.exchangeReceive?, same]
    rw [next]
    rw [same] at there
    have locked : oldest.claim = lockOf run.overflow oldest := by
      rw [overwrites]
      rfl
    exact
      { coherent with
        receiving := ⟨locked, there, inside⟩
        hold := by
          have hold := coherent.hold
          rw [held, quiet] at hold
          exact hold }
  · have next : run.stepReceiver = run.refuseReceive .skipped := by
      simp [stepReceiver, stage, Memory.exchangeReceive?, same]
    rw [next]
    exact coherent.moveReceiver quiet (by simp [ReceiveStage.mark]) coherent.sendCache_le there

theorem Coherent.sending_mark_update (coherent : run.Coherent bound)
    (inside : run.departed < run.accepted.size) (held : Nat → Option α) (content : Option α) :
    run.sending.mark run.accepted (Function.update held run.departed content) =
      Function.update (run.sending.mark run.accepted held) run.departed content := by
  have knows := coherent.sending
  cases stage : run.sending with
  | destroy value cursor oldest =>
      simp only [SenderKnows, stage] at knows
      exact Function.update_comm (by omega) _ _ _
  | publish value cursor =>
      simp only [SenderKnows, stage] at knows
      exact Function.update_comm (by omega) _ _ _
  | _ => rfl

theorem Coherent.taking (coherent : run.Coherent bound) (stage : run.receiving = .take oldest) :
    run.memory.receiveCursor = lockOf run.overflow oldest ∧ oldest.toNat = run.departed ∧
      oldest.toNat < run.accepted.size := by
  simpa [ReceiverKnows, stage] using coherent.receiving

theorem Coherent.held_take (coherent : run.Coherent bound) (stage : run.receiving = .take oldest) :
    ∃ value, run.accepted[oldest.toNat]? = some value ∧ run.held oldest.toNat = some value := by
  obtain ⟨-, here, inside⟩ := coherent.taking stage
  have found := Array.getElem?_eq_getElem inside
  refine ⟨_, found, ?_⟩
  rw [coherent.held_eq (Nat.le_of_eq here.symm) inside (by simp [stage]), found]

theorem Coherent.take (coherent : run.Coherent bound) (stage : run.receiving = .take oldest) :
    run.stepReceiver.Coherent bound := by
  obtain ⟨locked, here, -⟩ := coherent.taking stage
  obtain ⟨value, accepted, present⟩ := coherent.held_take stage
  obtain ⟨found, taken⟩ := coherent.hold.take present
  have taking : run.memory.take oldest =
      (some value,
        { run.memory with slots := (run.memory.slots.take (oldest.toNat % (bound + 1))).2 }) := by
    rw [Memory.take_eq run.memory coherent.mask, found]
  have next : run.stepReceiver =
      { run with
        memory := (run.memory.take oldest).2
        receiving := .release oldest value } := by
    simp [stepReceiver, stage, taking]
  rw [next]
  rw [taking]
  exact
    { coherent with
      receiving := ⟨locked, here, accepted⟩
      hold := by
        rw [held, stage] at taken
        exact taken }

theorem Coherent.sender_outlasts {after : Interleaving α} (coherent : run.Coherent bound)
    (sending : after.sending = run.sending) (overflow : after.overflow = run.overflow)
    (accepted : after.accepted = run.accepted) (cache : after.receiveCache = run.receiveCache)
    (departed : run.departed ≤ after.departed) : after.SenderKnows bound := by
  have knows := coherent.sending
  simp only [SenderKnows, sending, overflow, accepted, cache] at knows ⊢
  split at knows
  · exact knows
  · exact knows
  · exact knows
  · exact ⟨knows.1, knows.2.1, knows.2.2.1, Nat.lt_of_lt_of_le knows.2.2.2 departed⟩
  · exact knows
  · exact knows
  · trivial

theorem Coherent.release (coherent : run.Coherent bound)
    (stage : run.receiving = .release oldest value) : run.stepReceiver.Coherent bound := by
  obtain ⟨here, inside⟩ := coherent.released stage
  have found : run.accepted[oldest.toNat]? = some value := by
    have knows := coherent.receiving
    simp only [ReceiverKnows, stage] at knows
    exact knows.2.2
  have few := coherent.few
  have advanced := Cursor.toNat_advance_of_le (show oldest.toNat ≤ Cursor.horizon by omega)
  let after : Interleaving α :=
    { run with
      memory := run.memory.moveReceive oldest.advance
      receiving := .idle (some (.ok value))
      received := run.received.push value
      log := run.log.push (.notified .sender) }
  have next : run.stepReceiver = after := by simp [stepReceiver, stage, after]
  rw [next]
  have departed : after.departed = run.departed + 1 := by
    simp [Interleaving.departed, after]
    omega
  have moved : after.memory.receiveCursor.toNat = after.departed := by
    rw [departed, ← here]
    exact advanced
  have between := update_between (show after.accepted = run.accepted from rfl) departed
  exact
    { coherent with
      departed_le := by
        rw [departed]
        exact inside
      receiveCache_le := by
        rw [departed]
        exact Nat.le_succ_of_le coherent.receiveCache_le
      sending := coherent.sender_outlasts rfl rfl rfl rfl (by omega)
      receiving := moved
      hold := by
        have hold := coherent.hold
        rw [held, stage, ReceiveStage.mark, here, ← coherent.sending_mark_update inside, between]
          at hold
        exact hold
      accounts := by
        refine coherent.accounts.leave (.received value) (here ▸ found) rfl rfl departed
          Array.toList_push ?_
        exact (List.append_nil _).symm }

theorem Coherent.stepReceiver (coherent : run.Coherent bound) :
    run.stepReceiver.Coherent bound := by
  cases stage : run.receiving with
  | idle last =>
      have next : run.stepReceiver = run := by simp [Interleaving.stepReceiver, stage]
      rw [next]
      exact coherent
  | gone =>
      have next : run.stepReceiver = run := by simp [Interleaving.stepReceiver, stage]
      rw [next]
      exact coherent
  | readReceive => exact coherent.readReceive stage
  | readSend oldest => exact coherent.readSend_receiver stage
  | readClosed oldest => exact coherent.readClosed_receiver stage
  | readSendAgain oldest => exact coherent.readSendAgain stage
  | claim oldest => exact coherent.claim stage
  | take oldest => exact coherent.take stage
  | release oldest value => exact coherent.release stage

theorem Coherent.startReceive (coherent : run.Coherent bound) :
    run.startReceive.Coherent bound := by
  have knows := coherent.receiving
  unfold Interleaving.startReceive
  split
  · next last stage =>
      simp only [ReceiverKnows, stage] at knows
      exact coherent.moveReceiver (by simp [stage, ReceiveStage.mark])
        (by simp [ReceiveStage.mark]) coherent.sendCache_le knows
  · exact coherent

theorem Coherent.dropReceiver (coherent : run.Coherent bound) :
    run.dropReceiver.Coherent bound := by
  have knows := coherent.receiving
  unfold Interleaving.dropReceiver
  split
  · next last stage =>
      simp only [ReceiverKnows, stage] at knows
      exact (show run.shut.Coherent bound from { coherent with }).moveReceiver
        (by simp [shut, stage, ReceiveStage.mark]) (by simp [ReceiveStage.mark])
        coherent.sendCache_le knows
  · exact coherent

end Interleaving

end Handoff.Ring
