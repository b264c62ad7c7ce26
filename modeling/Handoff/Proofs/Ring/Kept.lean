import Handoff.Proofs.Ring.Refinement

namespace Handoff.Ring

/-! Whatever is asked of a ring channel comes down to sending one value, taking one element
or dropping an end.  What these four keep holds to the end of every run.
-/

namespace Channel

/-- Nothing that can happen to a channel breaks it. -/
structure Stable (holds : Channel α → Prop) : Prop where
  trySend : ∀ channel value, holds channel → holds (channel.trySend value).state
  takeOldest : ∀ channel, holds channel → holds channel.takeOldest.state
  dropSender : ∀ channel, holds channel → holds channel.dropSender.state
  dropReceiver : ∀ channel, holds channel → holds channel.dropReceiver.state

variable {channel : Channel α} {holds : Channel α → Prop}

theorem receiveInto_state (channel : Channel α) (register : α) :
    (channel.receiveInto register).state = channel.takeOldest.state := by
  rw [receiveInto]
  cases channel.takeOldest.result <;> rfl

theorem Stable.sendNext (stable : Stable holds) (kept : holds channel) (feed : List α) :
    holds (channel.sendNext feed).state := by
  cases feed with
  | nil => exact kept
  | cons value rest =>
      rw [Channel.sendNext]
      split
      · exact stable.trySend channel value kept
      · exact kept

theorem Stable.drain_run (stable : Stable holds) (count : Nat) (drain : Drain α)
    (kept : holds drain.channel) : holds (Drain.run count drain).channel := by
  induction count generalizing drain with
  | zero => exact kept
  | succ count ih =>
      refine ih drain.next ?_
      have taken := stable.takeOldest drain.channel kept
      rw [Drain.next]
      split
      · exact taken
      · exact stable.sendNext taken drain.feed

theorem Stable.perform (stable : Stable holds) (kept : holds channel) (action : Action α) :
    holds (channel.perform action).state := by
  have ifSender {act : Channel α → Step α (Answer α)} (acts : holds (act channel).state) :
      holds (channel.ifSender act).state := by
    rw [Channel.ifSender]
    split
    · exact acts
    · exact kept
  have ifReceiver {act : Channel α → Step α (Answer α)} (acts : holds (act channel).state) :
      holds (channel.ifReceiver act).state := by
    rw [Channel.ifReceiver]
    split
    · exact acts
    · exact kept
  cases action with
  | trySend value => exact ifSender (stable.trySend channel value kept)
  | tryReceive => exact ifReceiver (stable.takeOldest channel kept)
  | receiveInto register =>
      refine ifReceiver ?_
      rw [Outcome.mapResult_state, receiveInto_state]
      exact stable.takeOldest channel kept
  | drain limit feed => exact ifReceiver (stable.drain_run _ ⟨channel, feed, #[], #[]⟩ kept)
  | dropSender => exact ifSender (stable.dropSender channel kept)
  | dropReceiver => exact ifReceiver (stable.dropReceiver channel kept)
  | describe => exact kept
  | unknown => exact kept

theorem Stable.await (stable : Stable holds) (kept : holds channel) (blocked : Side)
    (group : List (Action α)) : holds (channel.await blocked group).state := by
  suffices acted : holds (performGroup blocked channel group).state from acted
  induction group generalizing channel with
  | nil => exact kept
  | cons action rest ih =>
      rw [performGroup, Outcome.andThen_state]
      refine ih ?_
      rw [performAsPeer]
      split
      · exact stable.perform kept action
      · exact kept

/-! Calls that wait. -/

variable {value returned : α}

/-- A full ring hands the value back, and the sender has looked at the receive cursor. -/
theorem trySend_of_full (full : (channel.trySend value).result = .error (.full returned)) :
    returned = value ∧ channel.closed = false ∧
      channel.refreshReceiveCache.seemsFull = true ∧
      channel.trySend value = ⟨.error (.full value), channel.refreshReceiveCache, []⟩ := by
  rw [Channel.trySend] at full ⊢
  cases closed : channel.closed with
  | true => simp [closed] at full
  | false =>
      cases seems : channel.refreshReceiveCache.seemsFull with
      | false => simp [closed, seems] at full
      | true =>
          cases overflow : channel.refreshReceiveCache.overflow with
          | overwrite => simp [closed, seems, overflow] at full
          | wait =>
              simp only [closed, seems, overflow] at full
              cases full
              simp [seems, overflow]

theorem trySend_of_closed_error
    (closed : (channel.trySend value).result = .error (.closed returned)) :
    channel.closed = true ∧ channel.trySend value = ⟨.error (.closed value), channel, []⟩ := by
  rw [Channel.trySend] at closed ⊢
  cases shut : channel.closed with
  | true => exact ⟨rfl, rfl⟩
  | false =>
      cases seems : channel.refreshReceiveCache.seemsFull with
      | false => simp [shut, seems] at closed
      | true => cases overflow : channel.refreshReceiveCache.overflow <;>
          simp [shut, seems, overflow] at closed

/-- The first attempt of a blocking send decides it, or there is no room. -/
theorem Stable.send_or_full (stable : Stable holds) (kept : holds channel) (value : α)
    (script : List (List (Action α))) :
    holds (channel.send value script).state ∨
      channel.trySend value = ⟨.error (.full value), channel.refreshReceiveCache, []⟩ := by
  have tried := stable.trySend channel value kept
  cases result : (channel.trySend value).result with
  | ok =>
      rw [send_of_accepted result]
      exact .inl tried
  | error error =>
      cases error with
      | closed returned =>
          rw [send_of_closed result]
          exact .inl tried
      | full returned => exact .inr (trySend_of_full result).2.2.2

theorem Stable.send (stable : Stable holds) (kept : holds channel) (value : α)
    (script : List (List (Action α))) : holds (channel.send value script).state := by
  induction script generalizing channel with
  | nil =>
      obtain sent | full := stable.send_or_full kept value []
      · exact sent
      · have tried := stable.trySend channel value kept
        rw [send_of_full_nil (congrArg _ full) (congrArg _ full)]
        exact stable.trySend _ _ (stable.await tried .sender [.dropReceiver])
  | cons group rest ih =>
      obtain sent | full := stable.send_or_full kept value (group :: rest)
      · exact sent
      · have tried := stable.trySend channel value kept
        rw [send_of_full_cons (congrArg _ full) (congrArg _ full)]
        exact ih (stable.await tried .sender group)

/-- The first attempt of a blocking receive decides it, or there is nothing yet. -/
theorem Stable.receive_or_empty (stable : Stable holds) (kept : holds channel)
    (script : List (List (Action α))) :
    holds (channel.receive script).state ∨ channel.takeOldest.result = .error .empty := by
  have tried := stable.takeOldest channel kept
  cases result : channel.takeOldest.result with
  | ok item =>
      rw [receive_of_taken result]
      exact .inl tried
  | error absence =>
      cases absence with
      | empty => exact .inr rfl
      | closed =>
          rw [(receive_of_closed_error result).2]
          exact .inl tried

theorem Stable.receive (stable : Stable holds) (kept : holds channel)
    (script : List (List (Action α))) : holds (channel.receive script).state := by
  induction script generalizing channel with
  | nil =>
      obtain received | empty := stable.receive_or_empty kept []
      · exact received
      · have tried := stable.takeOldest channel kept
        rw [receive_of_empty_error_nil empty]
        exact stable.takeOldest _ (stable.await tried .receiver [.dropSender])
  | cons group rest ih =>
      obtain received | empty := stable.receive_or_empty kept (group :: rest)
      · exact received
      · have tried := stable.takeOldest channel kept
        rw [receive_of_empty_error_cons empty]
        exact ih (stable.await tried .receiver group)

theorem Stable.call (stable : Stable holds) (kept : holds channel) (call : Call α) :
    holds (channel.call call).state := by
  cases call with
  | act action => exact stable.perform kept action
  | send value script =>
      rw [Channel.call]
      split
      · exact stable.send kept value script
      · exact kept
  | receive script =>
      rw [Channel.call]
      split
      · exact stable.receive kept script
      · exact kept

/-- What nothing breaks holds to the end of every run. -/
theorem Stable.after (stable : Stable holds) (kept : holds channel) (calls : List (Call α)) :
    holds (channel.after calls) := by
  induction calls generalizing channel with
  | nil => exact kept
  | cons call rest ih => exact ih (stable.call kept call)

end Channel

end Handoff.Ring
