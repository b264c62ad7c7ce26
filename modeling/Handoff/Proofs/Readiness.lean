import Handoff.Proofs.OneShot.Coherence
import Handoff.Proofs.Ring.Readiness

namespace Handoff

/-! What a blocked call waits for, on a ring and on a one-shot channel.  It is true when an
attempt would not be in vain, and only then, and it is never taken back; so a blocked call
neither waits for nothing nor tries again for nothing.
-/

namespace OneShot

/-- What the receiver can do without leaving. -/
def Action.IsReceivers : Action α → Prop
  | .tryReceive | .receiveInto _ | .describe | .unknown _ => True
  | .send _ | .dropSender | .dropReceiver => False

namespace Channel

variable {channel : Channel α} {action : Action α}

structure Readiness (channel : Channel α) : Prop where
  exact : channel.ready = true ↔ channel.tryReceive.result ≠ .error .empty
  goes : channel.ready = true → ∀ script, channel.receive script = channel.receiveLast
  stalls : channel.ready = false → ∀ count script,
    channel.receive (List.replicate count [] ++ script) =
      (⟨(), channel, idle .receiver count⟩ : Blocking α Unit).andThen
        fun _ channel => channel.receive script
  stays : channel.ready = true → ∀ further, (channel.after further).ready = true
  held : channel.ready = false → ∀ further : List (Action α),
    (∀ action ∈ further, action.IsReceivers) → (channel.after (further.map .act)).ready = false

theorem Coherent.ready_iff (coherent : channel.Coherent) (alive : channel.receiverAlive = true) :
    channel.ready = true ↔ channel.tryReceive.result ≠ .error .empty := by
  have there : channel.present = true := by simp [present, alive]
  obtain ⟨stage, tried⟩ | ⟨stage, tried⟩ | ⟨stage, tried⟩ | ⟨value, stage, -, tried⟩ :=
    coherent.tryReceive_cases there
  all_goals simp [ready, stage, tried]

theorem freeIfAbandoned_stage (channel : Channel α) :
    channel.freeIfAbandoned.state.stage = channel.stage := by
  rw [freeIfAbandoned]
  split
  · rfl
  · cases stage : channel.stage <;> simp [free, stage, take]

theorem tryReceive_ready (ready : channel.ready = true) :
    channel.tryReceive.state.ready = true := by
  rw [Channel.tryReceive]
  split
  · exact ready
  · cases stage : channel.stage with
    | sent => cases slot : channel.slot <;> simp [Channel.ready, take, slot, stage]
    | unsent => simp [Channel.ready, stage] at ready
    | disconnected => exact ready
    | received => exact ready

/-- Nothing brings the time back when nothing was sent. -/
theorem perform_ready (action : Action α) (ready : channel.ready = true) :
    (channel.perform action).state.ready = true := by
  cases action with
  | send value =>
      simp only [perform, ifSender, Channel.send]
      split
      · split
        · exact ready
        · rfl
      · exact ready
  | tryReceive =>
      rw [perform, ifReceiver]
      split
      · exact tryReceive_ready ready
      · exact ready
  | receiveInto register =>
      rw [perform, ifReceiver]
      split
      · rw [Outcome.mapResult_state, receiveInto_state]
        exact tryReceive_ready ready
      · exact ready
  | dropSender =>
      rw [perform, ifSender]
      split
      · rw [Outcome.mapResult_state, Channel.dropSender, Outcome.andThen_state, Channel.ready,
          freeIfAbandoned_stage, disconnect]
        split
        · exact ready
        · rfl
      · exact ready
  | dropReceiver =>
      rw [perform, ifReceiver]
      split
      · rw [Outcome.mapResult_state, Channel.dropReceiver, Channel.ready, freeIfAbandoned_stage]
        exact ready
      · exact ready
  | describe => exact ready
  | unknown => exact ready

theorem after_ready (ready : channel.ready = true) (calls : List (Call α)) :
    (channel.after calls).ready = true :=
  @after_kept α channel (fun channel => channel.ready = true)
    (fun _ action ready => perform_ready action ready) ready calls

theorem tryReceive_of_unsent (held : channel.ready = false) :
    channel.tryReceive.state = channel := by
  have unsent : channel.stage = .unsent := by simpa [Channel.ready] using held
  rw [Channel.tryReceive]
  split
  · rfl
  · rw [unsent]

theorem perform_held (isReceivers : action.IsReceivers) (held : channel.ready = false) :
    (channel.perform action).state = channel := by
  cases action with
  | tryReceive =>
      rw [perform, ifReceiver]
      split
      · exact tryReceive_of_unsent held
      · rfl
  | receiveInto register =>
      rw [perform, ifReceiver]
      split
      · exact (channel.receiveInto_state register).trans (tryReceive_of_unsent held)
      · rfl
  | describe => rfl
  | unknown => rfl
  | _ => cases isReceivers

theorem after_held (held : channel.ready = false) (further : List (Action α))
    (each : ∀ action ∈ further, action.IsReceivers) :
    channel.after (further.map .act) = channel := by
  induction further with
  | nil => rfl
  | cons action rest ih =>
      obtain ⟨first, others⟩ := List.forall_mem_cons.mp each
      have same : (channel.call (.act action)).state = channel := perform_held first held
      calc channel.after ((action :: rest).map .act)
        _ = (channel.call (.act action)).state.after (rest.map .act) := rfl
        _ = channel := by rw [same, ih others]

theorem Coherent.readiness (coherent : channel.Coherent) (alive : channel.receiverAlive = true) :
    channel.Readiness := by
  have exact := coherent.ready_iff alive
  refine ⟨exact, fun ready => receive_of_decided (exact.mp ready), ?_,
    after_ready, ?_⟩
  · intro held count script
    have empty : channel.tryReceive.result = .error .empty := by
      by_contra decided
      rw [exact.mpr decided] at held
      cases held
    induction count with
    | zero => rfl
    | succ count ih =>
        rw [List.replicate_succ, List.cons_append, receive_of_empty_cons empty]
        simp [await, performGroup, held, Outcome.andThen, ih, idle, List.replicate_succ]
  · intro held further each
    rw [after_held held further each, held]

end Channel

end OneShot

/-- What a blocked call waits for is exact, and lasts.  On a ring this is so for a sender
that does not overwrite and for every receiver, and on a one-shot channel for the
receiver. -/
theorem waiting_is_exact_and_lasts {overflow : Overflow} {requested : Nat}
    {created : Ring.Channel.Step α Unit}
    (made : Ring.Channel.create overflow requested = .ok created) (calls : List (Ring.Call α))
    (few : (Ring.Ledger.ofTurns (created.state.turns calls)).accepted.length <
      Ring.Cursor.horizon)
    (others : List (OneShot.Call α)) :
    let ring := created.state.after calls
    let channel := ({} : OneShot.Channel α).after others
    (overflow = .wait → ring.senderAlive = true → ring.SendReadiness) ∧
      (ring.receiverAlive = true → ring.ReceiveReadiness) ∧
      (∀ side, ring.alive side = true → ring.ReadinessLasts side fun further =>
        (Ring.Ledger.ofTurns (created.state.turns (calls ++ further))).accepted.length <
          Ring.Cursor.horizon) ∧
      (channel.receiverAlive = true → channel.Readiness) := by
  intro ring channel
  obtain ⟨bound, -, -, -, represents, balances⟩ :=
    Ring.Channel.turns_of_create made calls (Nat.le_of_lt few)
  refine ⟨?_, ?_, fun side alive => Ring.Channel.readiness_lasts made calls few alive,
    fun alive => (OneShot.Channel.coherent_after others).readiness alive⟩
  · intro waits alive
    have there := represents.senderAlive.symm.trans alive
    have holds := @Ring.Channel.Represents.holds_of_alive _ _ _ .sender represents there
    rw [balances.accepted_length] at few
    exact holds.sendReadiness there ((Ring.Queue.after_overflow _ calls).trans waits) few
  · intro alive
    have there := represents.receiverAlive.symm.trans alive
    have holds := @Ring.Channel.Represents.holds_of_alive _ _ _ .receiver represents there
    exact holds.receiveReadiness there

/-- A full ring is drained, and does not fill again by itself; the one-shot channel has a
value to receive. -/
theorem room_lasts :
    let calls : List (Ring.Call Nat) := [.act (.trySend 1)]
    let others : List (OneShot.Call Nat) := [.act (.send 5)]
    let full := (Ring.Channel.ofSize .wait 2).after calls
    full.sendReady = false ∧ full.Stalls .sender (fun channel script => channel.send 2 script) ∧
      (full.after [.act .tryReceive, .act .dropReceiver]).ready .sender = true ∧
      (({} : OneShot.Channel Nat).after others).Readiness := by
  intro calls others full
  obtain ⟨sends, -, -, receives⟩ := @waiting_is_exact_and_lasts Nat .wait 2
    ⟨(), Ring.Channel.ofSize .wait 2, [.noted (.ringCreated 2 2 false)]⟩ rfl calls
    (by decide +kernel) others
  have unready : full.sendReady = false := by decide +kernel
  obtain ⟨_, -, made, -⟩ := @waiting_is_exact_and_lasts Nat .wait 2
    ⟨(), Ring.Channel.ofSize .wait 2, [.noted (.ringCreated 2 2 false)]⟩ rfl
    (calls ++ [.act .tryReceive]) (by decide +kernel) others
  refine ⟨unready, (sends rfl (by decide +kernel)).stalls unready 2, ?_,
    receives (by decide +kernel)⟩
  exact (made .sender (by decide +kernel)).stays (by decide +kernel) [.act .dropReceiver]
    (by decide +kernel) (by simp [Ring.Call.attempt, Ring.Action.IsOf, Side.other])
    (by decide +kernel)

end Handoff
