import Handoff.OneShot.Blocking

namespace Handoff.OneShot

/-! The shared word, what the ends remember, and the slot of a one-shot channel agree
after every call.  The slot is filled exactly while the value is on its way, so it is
never written or read in the wrong state.
-/

/-- One call of a run, and all that its caller gets to see. -/
structure Turn (α : Type u) where
  call : Call α
  reply : Reply α
  log : List (ChannelEntry α)
  reports : EndReports

namespace Channel

def turns (channel : Channel α) : List (Call α) → List (Turn α)
  | [] => []
  | call :: rest =>
      let called := channel.call call
      ⟨call, called.result, called.log, called.state.reports⟩ :: called.state.turns rest

/-- The channel after some calls. -/
def after (channel : Channel α) (calls : List (Call α)) : Channel α :=
  calls.foldl (fun channel call => (channel.call call).state) channel

/-- One of the ends is still there. -/
def present (channel : Channel α) : Bool :=
  channel.senderAlive || channel.receiverAlive

structure Coherent (channel : Channel α) : Prop where
  filled : channel.present = true → (channel.slot.isSome = true ↔ channel.stage = .sent)
  sound : channel.faulty = false
  hasSent : channel.hasSent = true ↔ channel.stage = .sent ∨ channel.stage = .received
  hasReceived : channel.hasReceived = true ↔ channel.stage = .received
  left : channel.stage = .disconnected ↔ channel.senderAlive = false ∧ channel.hasSent = false

variable {channel : Channel α} {value : α}

theorem coherent_new : ({} : Channel α).Coherent := by
  constructor <;> simp

/-! What the operations come to. -/

theorem send_of_sent (sent : channel.hasSent = true) (value : α) :
    channel.send value = ⟨.error ⟨value⟩, channel, []⟩ := by
  rw [send, if_pos sent]

theorem Coherent.vacant (coherent : channel.Coherent) (there : channel.present = true)
    (unsent : channel.hasSent = false) : channel.slot = none := by
  have absent : ¬channel.slot.isSome = true := by
    rw [coherent.filled there]
    intro sent
    rw [coherent.hasSent.mpr (.inl sent)] at unsent
    cases unsent
  simpa using absent

theorem Coherent.send_of_unsent (coherent : channel.Coherent) (there : channel.present = true)
    (unsent : channel.hasSent = false) (value : α) :
    channel.send value =
      { result := .ok ()
        state := { channel with slot := some value, stage := .sent, hasSent := true }
        log := [.notified .receiver] } := by
  simp [send, write, unsent, coherent.vacant there unsent]

theorem Coherent.tryReceive_cases (coherent : channel.Coherent)
    (there : channel.present = true) :
    (channel.stage = .unsent ∧ channel.tryReceive = ⟨.error .empty, channel, []⟩) ∨
      (channel.stage = .disconnected ∧ channel.tryReceive = ⟨.error .closed, channel, []⟩) ∨
      (channel.stage = .received ∧ channel.tryReceive = ⟨.error .received, channel, []⟩) ∨
      ∃ value, channel.stage = .sent ∧ channel.slot = some value ∧ channel.tryReceive =
        { result := .ok value
          state := { channel with slot := none, stage := .received, hasReceived := true }
          log := [] } := by
  have early (before : channel.stage ≠ .received) : channel.hasReceived = false := by
    simpa using mt coherent.hasReceived.mp before
  cases stage : channel.stage with
  | unsent =>
      have unreceived := early (by rw [stage]; decide)
      exact .inl ⟨rfl, by simp [tryReceive, unreceived, stage]⟩
  | disconnected =>
      have unreceived := early (by rw [stage]; decide)
      exact .inr (.inl ⟨rfl, by simp [tryReceive, unreceived, stage]⟩)
  | received =>
      have received := coherent.hasReceived.mpr stage
      exact .inr (.inr (.inl ⟨rfl, by simp [tryReceive, received]⟩))
  | sent =>
      have unreceived := early (by rw [stage]; decide)
      obtain ⟨value, slot⟩ := Option.isSome_iff_exists.mp ((coherent.filled there).mpr stage)
      exact .inr (.inr (.inr ⟨value, rfl, slot,
        by simp [tryReceive, unreceived, stage, take, slot]⟩))

theorem receiveInto_state (channel : Channel α) (register : α) :
    (channel.receiveInto register).state = channel.tryReceive.state := by
  rw [receiveInto]
  cases channel.tryReceive.result <;> rfl

/-! What they keep. -/

theorem Coherent.send (coherent : channel.Coherent) (alive : channel.senderAlive = true)
    (value : α) : (channel.send value).state.Coherent := by
  have there : channel.present = true := by simp [present, alive]
  cases sent : channel.hasSent with
  | true =>
      rw [send_of_sent sent]
      exact coherent
  | false =>
      have unreceived : channel.hasReceived = false := by
        cases received : channel.hasReceived with
        | false => rfl
        | true =>
            rw [coherent.hasSent.mpr (.inr (coherent.hasReceived.mp received))] at sent
            cases sent
      rw [coherent.send_of_unsent there sent]
      constructor <;> simp [coherent.sound, unreceived]

theorem Coherent.tryReceive (coherent : channel.Coherent) (there : channel.present = true) :
    channel.tryReceive.state.Coherent := by
  obtain ⟨-, tried⟩ | ⟨-, tried⟩ | ⟨-, tried⟩ | ⟨value, stage, slot, tried⟩ :=
    coherent.tryReceive_cases there
  · rw [tried]
    exact coherent
  · rw [tried]
    exact coherent
  · rw [tried]
    exact coherent
  · have sent := coherent.hasSent.mpr (.inl stage)
    rw [tried]
    constructor <;> simp [coherent.sound, sent]

theorem Coherent.freeIfAbandoned (coherent : channel.Coherent)
    (filled : channel.slot.isSome = true ↔ channel.stage = .sent) :
    channel.freeIfAbandoned.state.Coherent := by
  rw [Channel.freeIfAbandoned]
  split
  · exact coherent
  · next abandoned =>
      cases stage : channel.stage with
      | sent =>
          obtain ⟨value, slot⟩ := Option.isSome_iff_exists.mp (filled.mpr stage)
          have sent := coherent.hasSent.mpr (.inl stage)
          have unreceived : channel.hasReceived = false := by
            simpa [stage] using coherent.hasReceived
          simp only [free, stage, take, slot]
          refine ⟨fun there => absurd there abandoned, ?_, ?_, ?_, ?_⟩ <;>
            simp [coherent.sound, sent, unreceived]
      | _ =>
          simp only [free, stage]
          exact coherent

theorem Coherent.dropSender (coherent : channel.Coherent) (alive : channel.senderAlive = true) :
    channel.dropSender.state.Coherent := by
  have filled := coherent.filled (by simp [present, alive])
  rw [Channel.dropSender, Outcome.andThen_state, disconnect]
  split
  · next sent =>
      have kept := coherent.left
      simp only [alive, sent] at kept
      refine Coherent.freeIfAbandoned ⟨fun _ => filled, coherent.sound, coherent.hasSent,
        coherent.hasReceived, ?_⟩ filled
      simpa [sent] using kept
  · next unsent =>
      have never := mt coherent.hasSent.mpr unsent
      have vacant := coherent.vacant (by simp [present, alive]) (by simpa using unsent)
      have unreceived : channel.hasReceived = false := by
        simpa using mt coherent.hasReceived.mp (fun received => never (.inr received))
      refine Coherent.freeIfAbandoned ⟨?_, coherent.sound, ?_, ?_, ?_⟩ ?_ <;>
        simp [vacant, unsent, unreceived]

theorem Coherent.dropReceiver (coherent : channel.Coherent)
    (alive : channel.receiverAlive = true) : channel.dropReceiver.state.Coherent := by
  have filled := coherent.filled (by simp [present, alive])
  exact Coherent.freeIfAbandoned
    ⟨fun _ => filled, coherent.sound, coherent.hasSent, coherent.hasReceived, coherent.left⟩ filled

theorem Coherent.perform (coherent : channel.Coherent) (action : Action α) :
    (channel.perform action).state.Coherent := by
  cases action with
  | send value =>
      rw [Channel.perform, ifSender]
      split
      · next alive => exact coherent.send alive value
      · exact coherent
  | tryReceive =>
      rw [Channel.perform, ifReceiver]
      split
      · next alive => exact coherent.tryReceive (by simp [present, alive])
      · exact coherent
  | receiveInto register =>
      rw [Channel.perform, ifReceiver]
      split
      · next alive =>
          rw [Outcome.mapResult_state, receiveInto_state]
          exact coherent.tryReceive (by simp [present, alive])
      · exact coherent
  | dropSender =>
      rw [Channel.perform, ifSender]
      split
      · next alive => exact coherent.dropSender alive
      · exact coherent
  | dropReceiver =>
      rw [Channel.perform, ifReceiver]
      split
      · next alive => exact coherent.dropReceiver alive
      · exact coherent
  | describe => exact coherent
  | unknown => exact coherent

/-! With waiting, the peer acts as well, but never drops the receiver. -/

variable {action : Action α} {script : List (List (Action α))} {group : List (Action α)}
  {keeps : Channel α → Prop}

theorem freeIfAbandoned_receiverAlive (channel : Channel α) :
    channel.freeIfAbandoned.state.receiverAlive = channel.receiverAlive := by
  rw [Channel.freeIfAbandoned]
  split
  · rfl
  · cases stage : channel.stage <;> simp [free, stage, take]

theorem tryReceive_receiverAlive (channel : Channel α) :
    channel.tryReceive.state.receiverAlive = channel.receiverAlive := by
  rw [Channel.tryReceive]
  split
  · rfl
  · cases stage : channel.stage with
    | sent => cases slot : channel.slot <;> simp [take, slot]
    | _ => rfl

theorem perform_receiverAlive (channel : Channel α) (permitted : permits action = true) :
    (channel.perform action).state.receiverAlive = channel.receiverAlive := by
  cases action with
  | send value =>
      simp only [Channel.perform, ifSender, Channel.send]
      split
      · split <;> rfl
      · rfl
  | tryReceive =>
      rw [Channel.perform, ifReceiver]
      split
      · exact channel.tryReceive_receiverAlive
      · rfl
  | receiveInto register =>
      rw [Channel.perform, ifReceiver]
      split
      · rw [Outcome.mapResult_state, receiveInto_state]
        exact channel.tryReceive_receiverAlive
      · rfl
  | dropSender =>
      rw [Channel.perform, ifSender]
      split
      · rw [Outcome.mapResult_state, Channel.dropSender, Outcome.andThen_state,
          freeIfAbandoned_receiverAlive, disconnect]
        split <;> rfl
      · rfl
  | dropReceiver => cases permitted
  | describe => rfl
  | unknown => rfl

theorem await_receiverAlive (channel : Channel α) (group : List (Action α)) :
    (channel.await group).state.receiverAlive = channel.receiverAlive := by
  suffices acted : (channel.performGroup group).state.receiverAlive = channel.receiverAlive from
    acted
  induction group generalizing channel with
  | nil => rfl
  | cons action rest ih =>
      rw [performGroup, Outcome.andThen_state, ih, performAsPeer]
      split
      · next permitted => exact channel.perform_receiverAlive permitted
      · rfl

/-- An attempt that finds nothing yet does nothing. -/
theorem tryReceive_of_empty (empty : channel.tryReceive.result = .error .empty) :
    channel.tryReceive = ⟨.error .empty, channel, []⟩ := by
  rw [Channel.tryReceive] at empty ⊢
  split at empty
  · cases empty
  · next unreceived =>
      rw [if_neg unreceived]
      cases stage : channel.stage with
      | sent => cases slot : channel.slot <;> simp [stage, take, slot] at empty
      | unsent => rfl
      | disconnected => simp [stage] at empty
      | received => simp [stage] at empty

theorem receive_of_decided (decided : channel.tryReceive.result ≠ .error .empty)
    (script : List (List (Action α))) : channel.receive script = channel.receiveLast := by
  unfold receive
  cases tried : channel.tryReceive.result with
  | ok value =>
      cases script <;>
        simp [asEntries, receiveLast, tried, Outcome.mapResult, Outcome.mapLog]
  | error error =>
      cases error with
      | empty => exact absurd tried decided
      | _ =>
          cases script <;>
            simp [asEntries, receiveLast, tried, Outcome.mapResult, Outcome.mapLog]

theorem receive_of_empty_nil (empty : channel.tryReceive.result = .error .empty) :
    channel.receive [] =
      (channel.await [.dropSender]).andThen fun _ channel => channel.receiveLast := by
  unfold receive
  rw [tryReceive_of_empty empty]
  rfl

theorem receive_of_empty_cons (empty : channel.tryReceive.result = .error .empty) :
    channel.receive (group :: script) =
      (channel.await group).andThen fun _ channel => channel.receive script := by
  conv => lhs; unfold receive
  rw [tryReceive_of_empty empty]
  rfl

theorem await_kept
    (step : ∀ channel action, keeps channel → keeps (channel.perform action).state)
    (holds : keeps channel) (group : List (Action α)) : keeps (channel.await group).state := by
  suffices acted : keeps (channel.performGroup group).state from acted
  induction group generalizing channel with
  | nil => exact holds
  | cons action rest ih =>
      rw [performGroup, Outcome.andThen_state]
      refine ih ?_
      rw [performAsPeer]
      split
      · exact step channel action holds
      · exact holds

theorem tryReceive_kept
    (step : ∀ channel action, keeps channel → keeps (channel.perform action).state)
    (alive : channel.receiverAlive = true) (holds : keeps channel) :
    keeps channel.tryReceive.state := by
  have performed := step channel .tryReceive holds
  rwa [Channel.perform, ifReceiver, if_pos alive] at performed

theorem receive_kept
    (step : ∀ channel action, keeps channel → keeps (channel.perform action).state)
    (alive : channel.receiverAlive = true) (holds : keeps channel)
    (script : List (List (Action α))) : keeps (channel.receive script).state := by
  induction script generalizing channel with
  | nil =>
      by_cases empty : channel.tryReceive.result = .error .empty
      · rw [receive_of_empty_nil empty, Outcome.andThen_state]
        exact tryReceive_kept step ((channel.await_receiverAlive _).trans alive)
          (await_kept step holds _)
      · rw [receive_of_decided empty]
        exact tryReceive_kept step alive holds
  | cons group rest ih =>
      by_cases empty : channel.tryReceive.result = .error .empty
      · rw [receive_of_empty_cons empty, Outcome.andThen_state]
        exact ih ((channel.await_receiverAlive group).trans alive) (await_kept step holds group)
      · rw [receive_of_decided empty]
        exact tryReceive_kept step alive holds

/-- What every action keeps is kept by every run. -/
theorem after_kept
    (step : ∀ channel action, keeps channel → keeps (channel.perform action).state)
    (holds : keeps channel) (calls : List (Call α)) : keeps (channel.after calls) := by
  induction calls generalizing channel with
  | nil => exact holds
  | cons call rest ih =>
      refine ih (?_ : keeps (channel.call call).state)
      cases call with
      | act action => exact step channel action holds
      | receive script =>
          rw [Channel.call]
          split
          · next alive => exact receive_kept step alive holds script
          · exact holds

theorem coherent_after (calls : List (Call α)) : (({} : Channel α).after calls).Coherent :=
  after_kept (fun _ action coherent => coherent.perform action) coherent_new calls

end Channel

end Handoff.OneShot
