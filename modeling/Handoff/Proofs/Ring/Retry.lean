import Handoff.Proofs.Outlook
import Handoff.Proofs.Ring.Readiness
import Handoff.Proofs.Ring.Wraparound

namespace Handoff.Ring

/-! Whether it helps to try again.  A failure that can go away does so with a single call
of the other end; every other one comes from an end that is gone, and ends do not come back.
-/

def Reply.upshot : Reply α → Upshot
  | .plain .done | .plain (.received _) | .sent (.ok _) | .received (.ok _) => .succeeded
  | .plain (.notSent error) => .failed (Failure.status error)
  | .plain (.notReceived error) => .failed (Failure.status error)
  | .plain (.register status _) => if status = .success then .succeeded else .failed status
  | .sent (.error error) => .failed (Failure.status error)
  | .received (.error error) => .failed (Failure.status error)
  | .plain (.drained _) | .plain (.described ..) | .plain .gone | .plain .refused => .untried

/-- The end that sends or receives in a call. -/
def Call.side : Call α → Side
  | .act (.trySend _) | .act .dropSender | .send .. => .sender
  | .act _ | .receive _ => .receiver

/-- The same operation is tried again, be it with another value, another register or another
peer. -/
inductive Call.Repeats : Call α → Call α → Prop where
  | trySend (value other : α) : Repeats (.act (.trySend value)) (.act (.trySend other))
  | tryReceive : Repeats (.act .tryReceive) (.act .tryReceive)
  | receiveInto (register other : α) :
      Repeats (.act (.receiveInto register)) (.act (.receiveInto other))
  | send (value other : α) (script others : List (List (Action α))) :
      Repeats (.send value script) (.send other others)
  | receive (script others : List (List (Action α))) : Repeats (.receive script) (.receive others)

namespace Channel

/-- Nothing is asked of an end that is gone. -/
def OnLiveEnds (channel : Channel α) (calls : List (Call α)) : Prop :=
  ∀ turn ∈ channel.turns calls, turn.reply ≠ .plain .gone

/-- A call that has failed with this status has left the channel. -/
def Foretells (left : Channel α) (call : Call α) (status : Status) : Prop :=
  status.Foretells left.OnLiveEnds (fun further => (left.after further).alive call.side = true)
    (fun further again => ((left.after further).call again).result.upshot) call call.Repeats

variable {channel : Channel α} {call again : Call α} {status : Status} {value : α}
  {script : List (List (Action α))} {bound : Nat}

/-- Only an end that is there can send or receive. -/
theorem alive_of_succeeded (repeats : call.Repeats again)
    (succeeded : (channel.call call).result.upshot = .succeeded) :
    channel.alive call.side = true := by
  cases alive : channel.alive call.side with
  | true => rfl
  | false =>
      have gone : (channel.call call).result = .plain .gone := by
        cases repeats
        all_goals
          simp only [Call.side, Channel.alive] at alive
          simp [Channel.call, asEntries, perform, ifSender, ifReceiver, alive]
      rw [gone] at succeeded
      cases succeeded

/-! What a repeated attempt comes to. -/

theorem call_accepted (repeats : call.Repeats again) (side : call.side = .sender)
    (alive : channel.senderAlive = true)
    (accepted : ∀ value, (channel.trySend value).result = .ok ()) :
    (channel.call again).result.upshot = .succeeded := by
  cases repeats with
  | trySend value other =>
      simp [Channel.call, asEntries, perform, ifSender, alive, accepted, Reply.upshot]
  | send value other script others =>
      simp [Channel.call, alive, send_of_accepted (accepted other), Reply.upshot]
  | _ => cases side

theorem call_rejected (repeats : call.Repeats again) (side : call.side = .sender)
    (alive : channel.senderAlive = true) (closed : channel.closed = true) :
    (channel.call again).result.upshot = .failed .channelClosed := by
  have rejected (value : α) : (channel.trySend value).result = .error (.closed value) := by
    simp [Channel.trySend, closed]
  cases repeats with
  | trySend value other =>
      simp [Channel.call, asEntries, perform, ifSender, alive, rejected, Reply.upshot]
      rfl
  | send value other script others =>
      simp [Channel.call, alive, send_of_closed (rejected other), Reply.upshot]
      rfl
  | _ => cases side

theorem call_taken (repeats : call.Repeats again) (side : call.side = .receiver)
    (alive : channel.receiverAlive = true) (taken : channel.takeOldest.result = .ok value) :
    (channel.call again).result.upshot = .succeeded := by
  cases repeats with
  | tryReceive =>
      simp [Channel.call, asEntries, perform, ifReceiver, alive, tryReceive, taken, Reply.upshot]
  | receiveInto register other =>
      simp [Channel.call, asEntries, perform, ifReceiver, alive, receiveInto, taken,
        Reply.upshot]
  | receive script others =>
      simp [Channel.call, alive, receive_of_taken taken, Reply.upshot]
  | _ => cases side

theorem call_ended (repeats : call.Repeats again) (side : call.side = .receiver)
    (alive : channel.receiverAlive = true) (ended : channel.takeOldest.result = .error .closed) :
    (channel.call again).result.upshot = .failed .channelClosed := by
  cases repeats with
  | tryReceive =>
      simp [Channel.call, asEntries, perform, ifReceiver, alive, tryReceive, ended, Reply.upshot]
      rfl
  | receiveInto register other =>
      simp [Channel.call, asEntries, perform, ifReceiver, alive, receiveInto, ended,
        Reply.upshot]
      rfl
  | receive script others =>
      simp [Channel.call, alive, (receive_of_closed_error ended).1, Reply.upshot]
      rfl
  | _ => cases side

/-! Failures that last. -/

theorem stable_closed : Stable fun channel : Channel α => channel.closed = true where
  trySend channel value closed := (standing_eq (channel.trySend_standing value)).1.trans closed
  takeOldest channel closed := (standing_eq channel.takeOldest_standing).1.trans closed
  dropSender channel _ := (standing_eq channel.dropSender_standing).1
  dropReceiver channel _ := (standing_eq channel.dropReceiver_standing).1

/-- As long as there is a receiver, it finds that nothing is left and nothing will come. -/
def Exhausted (channel : Channel α) : Prop :=
  channel.receiverAlive = true →
    channel.closed = true ∧ channel.seemsStocked = false ∧
      channel.sendCursor = channel.receiveCursor

theorem takeOldest_of_exhausted (closed : channel.closed = true)
    (unstocked : channel.seemsStocked = false)
    (same : channel.sendCursor = channel.receiveCursor) :
    channel.takeOldest = ⟨.error .closed, channel, []⟩ := by
  simp [takeOldest, refreshSendCache, closed, unstocked, same]

theorem stable_exhausted : Stable (Exhausted : Channel α → Prop) where
  trySend channel value exhausted := by
    intro alive
    rw [(standing_eq (channel.trySend_standing value)).2.2] at alive
    obtain ⟨closed, unstocked, same⟩ := exhausted alive
    rw [show (channel.trySend value).state = channel by simp [Channel.trySend, closed]]
    exact ⟨closed, unstocked, same⟩
  takeOldest channel exhausted := by
    intro alive
    rw [(standing_eq channel.takeOldest_standing).2.2] at alive
    obtain ⟨closed, unstocked, same⟩ := exhausted alive
    rw [takeOldest_of_exhausted closed unstocked same]
    exact ⟨closed, unstocked, same⟩
  dropSender channel exhausted := by
    intro alive
    rw [(standing_eq channel.dropSender_standing).2.2] at alive
    obtain ⟨closed, unstocked, same⟩ := exhausted alive
    rw [dropSender_eq alive]
    exact ⟨rfl, unstocked, same⟩
  dropReceiver channel exhausted := by
    intro alive
    rw [(standing_eq channel.dropReceiver_standing).2.2] at alive
    cases alive

theorem foretells_of_closed (repeats : call.Repeats call) (side : call.side = .sender)
    (closed : channel.closed = true) : channel.Foretells call .channelClosed := by
  refine .of_lasts rfl repeats (fun _ => alive_of_succeeded repeats)
    fun further alive again isAgain => ?_
  rw [side] at alive
  exact call_rejected isAgain side alive (stable_closed.after closed further)

theorem foretells_of_exhausted (repeats : call.Repeats call) (side : call.side = .receiver)
    (exhausted : channel.Exhausted) : channel.Foretells call .channelClosed := by
  refine .of_lasts rfl repeats (fun _ => alive_of_succeeded repeats)
    fun further alive again isAgain => ?_
  rw [side] at alive
  obtain ⟨closed, unstocked, same⟩ := stable_exhausted.after exhausted further alive
  have ended := takeOldest_of_exhausted closed unstocked same
  exact call_ended isAgain side alive (by rw [ended])

/-! Failures that pass. -/

theorem onLiveEnds_of_succeeded (succeeded : (channel.call call).result.upshot = .succeeded) :
    channel.OnLiveEnds [call] := by
  rintro turn (_ | later)
  · intro gone
    rw [show (channel.call call).result = .plain .gone from gone] at succeeded
    cases succeeded
  · contradiction

theorem Endures.ends (endures : channel.Endures bound)
    (opened : channel.closed = false) :
    channel.senderAlive = true ∧ channel.receiverAlive = true := by
  have closed := endures.closed
  rwa [opened, Eq.comm, Bool.not_eq_false', Bool.and_eq_true] at closed

/-- A full ring has room once an element is received. -/
theorem Endures.foretells_full (endures : channel.Endures bound)
    (repeats : call.Repeats call) (side : call.side = .sender)
    (opened : channel.closed = false)
    (full : Cursor.gap channel.receiveCursor channel.sendCursor = bound) :
    channel.Foretells call .channelFull := by
  obtain ⟨sender, receiver⟩ := endures.ends opened
  have spans := endures.spans (by rw [sender, Bool.true_or])
  have roomy := spans.mask.roomy
  obtain ⟨same, -⟩ | ⟨⟨value, taken⟩, later, -, fewer⟩ := spans.takeOldest_cases
  · -- a ring with room for an element is not full and empty at once
    rw [same, Cursor.gap_self spans.receiveBelow] at full
    omega
  · have received : channel.after [.act .tryReceive] = channel.takeOldest.state := by
      simp [after, Channel.call, asEntries, perform, ifReceiver, receiver, tryReceive]
    obtain ⟨closed, senderStays, -⟩ := standing_eq channel.takeOldest_standing
    have live := onLiveEnds_of_succeeded (call_taken .tryReceive rfl receiver taken)
    refine .of_passes rfl repeats live fun again isAgain => ?_
    rw [received]
    refine call_accepted isAgain side (senderStays.trans sender) fun value => ?_
    exact (later.trySend_of_room (closed.trans opened) (by omega) value).1

/-- An empty ring has an element once a value is sent. -/
theorem Endures.foretells_empty [Nonempty α] (endures : channel.Endures bound)
    (repeats : call.Repeats call) (side : call.side = .receiver)
    (opened : channel.closed = false) (same : channel.sendCursor = channel.receiveCursor) :
    channel.Foretells call .channelEmpty := by
  obtain ⟨sender, receiver⟩ := endures.ends opened
  have spans := endures.spans (by rw [sender, Bool.true_or])
  have roomy := spans.mask.roomy
  have none : Cursor.gap channel.receiveCursor channel.sendCursor = 0 := by
    rw [same, Cursor.gap_self spans.receiveBelow]
  have accepted (value : α) := spans.trySend_of_room opened (by omega) value
  obtain ⟨value⟩ := ‹Nonempty α›
  have sent : channel.after [.act (.trySend value)] = (channel.trySend value).state := by
    simp [after, Channel.call, asEntries, perform, ifSender, sender]
  have later := spans.trySend value
  obtain ⟨-, -, receiverStays⟩ := standing_eq (channel.trySend_standing value)
  have live := onLiveEnds_of_succeeded (call_accepted (.trySend value value) rfl sender
    fun value => (accepted value).1)
  refine .of_passes rfl repeats live fun again isAgain => ?_
  rw [sent]
  obtain ⟨level, -⟩ | ⟨⟨item, taken⟩, -⟩ := later.takeOldest_cases
  · have one := (accepted value).2
    rw [level, Cursor.gap_self later.receiveBelow] at one
    omega
  · exact call_taken isAgain side (receiverStays.trans receiver) taken

/-! Every failure. -/

theorem alive_await_leave (blocked : Side) (channel : Channel α) :
    (channel.await blocked [leave blocked]).state.alive blocked.other = false := by
  cases blocked with
  | sender =>
      change (channel.perform .dropReceiver).state.receiverAlive = false
      rw [perform, ifReceiver]
      cases alive : channel.receiverAlive with
      | false => exact alive
      | true => exact (standing_eq channel.dropReceiver_standing).2.2
  | receiver =>
      change (channel.perform .dropSender).state.senderAlive = false
      rw [perform, ifSender]
      cases alive : channel.senderAlive with
      | false => exact alive
      | true => exact (standing_eq channel.dropSender_standing).2.1

/-- When the script has ended, the channel is closed. -/
theorem Endures.closed_await_leave (endures : channel.Endures bound)
    (blocked : Side) : (channel.await blocked [leave blocked]).state.closed = true := by
  have gone := channel.alive_await_leave blocked
  have closed := ((stable_endures bound).await endures blocked [leave blocked]).closed
  cases blocked with
  | sender =>
      rw [show (channel.await .sender [leave .sender]).state.receiverAlive = false from gone,
        Bool.and_false] at closed
      exact closed
  | receiver =>
      rw [show (channel.await .receiver [leave .receiver]).state.senderAlive = false from gone]
        at closed
      exact closed

/-- A send that fails does so at once, or has found the ring full. -/
theorem send_failed_cases {error : SendError α}
    (failed : (channel.send value script).result = .error error) :
    (channel.send value script).state.closed = true ∨
      channel.trySend value = ⟨.error (.full value), channel.refreshReceiveCache, []⟩ := by
  cases result : (channel.trySend value).result with
  | ok =>
      rw [send_of_accepted result] at failed
      cases failed
  | error reason =>
      cases reason with
      | closed returned =>
          obtain ⟨closed, rejected⟩ := trySend_of_closed_error result
          rw [send_of_closed result, rejected]
          exact .inl closed
      | full returned => exact .inr (trySend_of_full result).2.2.2

/-- When a sender gives up, the channel is closed. -/
theorem Endures.closed_of_send_failed {error : SendError α}
    (endures : channel.Endures bound)
    (failed : (channel.send value script).result = .error error) :
    (channel.send value script).state.closed = true := by
  induction script generalizing channel with
  | nil =>
      obtain closed | full := send_failed_cases failed
      · exact closed
      · -- the receiver has been dropped, and the value comes back from the last attempt
        rw [send_of_full_nil (congrArg _ full) (congrArg _ full), Outcome.andThen_state,
          sendLast_of_closed]
        all_goals exact ((stable_endures bound).trySend _ value endures).closed_await_leave .sender
  | cons group rest ih =>
      obtain closed | full := send_failed_cases failed
      · exact closed
      · rw [send_of_full_cons (congrArg _ full) (congrArg _ full)] at failed ⊢
        have looked := (stable_endures bound).trySend channel value endures
        exact ih ((stable_endures bound).await looked .sender group) failed

/-- Whoever finds nothing in a closed ring has come to the end. -/
theorem Endures.exhausted {absence : Absence} (endures : channel.Endures bound)
    (failed : channel.takeOldest.result = .error absence)
    (closed : absence = .empty → channel.closed = true) :
    channel.takeOldest.state.Exhausted := by
  intro alive
  rw [(standing_eq channel.takeOldest_standing).2.2] at alive
  obtain ⟨same, unstocked, unmoved⟩ | ⟨⟨value, taken⟩, -⟩ :=
    (endures.spans (by rw [alive, Bool.or_true])).takeOldest_cases
  · rw [unmoved] at failed ⊢
    refine ⟨?_, unstocked, same⟩
    cases shut : channel.closed with
    | true => rfl
    | false =>
        rw [shut] at failed
        cases failed
        exact shut.symm.trans (closed rfl)
  · rw [taken] at failed
    cases failed

/-- A receive that fails does so at once, or has found the ring empty. -/
theorem Endures.receive_failed_cases {error : ReceiveError}
    (endures : channel.Endures bound) (failed : (channel.receive script).result = .error error) :
    (channel.receive script).state.Exhausted ∨ channel.takeOldest.result = .error .empty := by
  cases result : channel.takeOldest.result with
  | ok item =>
      rw [receive_of_taken result] at failed
      cases failed
  | error absence =>
      cases absence with
      | empty => exact .inr rfl
      | closed =>
          rw [(receive_of_closed_error result).2]
          refine .inl (endures.exhausted result fun empty => ?_)
          cases empty

theorem Endures.exhausted_of_receiveLast {error : ReceiveError}
    (endures : channel.Endures bound) (closed : channel.closed = true)
    (failed : channel.receiveLast.result = .error error) : channel.receiveLast.state.Exhausted := by
  cases last : channel.takeOldest.result with
  | ok item => simp [receiveLast, asEntries, last] at failed
  | error absence => exact endures.exhausted last fun _ => closed

/-- When a receiver gives up, nothing is left. -/
theorem Endures.exhausted_of_receive_failed {error : ReceiveError}
    (endures : channel.Endures bound) (failed : (channel.receive script).result = .error error) :
    (channel.receive script).state.Exhausted := by
  have tried := (stable_endures bound).takeOldest channel endures
  induction script generalizing channel with
  | nil =>
      obtain exhausted | empty := endures.receive_failed_cases failed
      · exact exhausted
      · -- the sender has been dropped, so the last attempt has found a closed channel
        rw [receive_of_empty_error_nil empty] at failed ⊢
        have left := (stable_endures bound).await tried .receiver [leave .receiver]
        exact left.exhausted_of_receiveLast (tried.closed_await_leave .receiver) failed
  | cons group rest ih =>
      obtain exhausted | empty := endures.receive_failed_cases failed
      · exact exhausted
      · rw [receive_of_empty_error_cons empty] at failed ⊢
        have left := (stable_endures bound).await tried .receiver group
        exact ih left failed ((stable_endures bound).takeOldest _ left)

/-- Full or closed, a value comes back with the right status. -/
theorem Endures.foretells_trySend {error : TrySendError α}
    (endures : channel.Endures bound) (failed : (channel.trySend value).result = .error error)
    (alive : channel.senderAlive = true) :
    (channel.trySend value).state.Foretells (.act (.trySend value)) error.status := by
  have later := (stable_endures bound).trySend channel value endures
  cases error with
  | closed returned =>
      obtain ⟨closed, rejected⟩ := trySend_of_closed_error failed
      rw [rejected]
      exact foretells_of_closed (.trySend value value) rfl closed
  | full returned =>
      obtain ⟨-, opened, seems, full⟩ := trySend_of_full failed
      obtain ⟨-, exact⟩ := (endures.spans (by rw [alive, Bool.true_or])).refreshReceiveCache
      rw [full] at later ⊢
      refine later.foretells_full (.trySend value value) rfl ?_ ?_
      · exact (standing_eq channel.refreshReceiveCache_standing).1.trans opened
      · rw [refreshReceiveCache_receiveCursor, refreshReceiveCache_sendCursor]
        exact exact.mp seems

theorem Endures.foretells_takeOldest [Nonempty α] {absence : Absence}
    (endures : channel.Endures bound) (failed : channel.takeOldest.result = .error absence)
    (alive : channel.receiverAlive = true) (repeats : call.Repeats call)
    (side : call.side = .receiver) :
    channel.takeOldest.state.Foretells call absence.toError.status := by
  cases absence with
  | closed =>
      refine foretells_of_exhausted repeats side (endures.exhausted failed fun empty => ?_)
      cases empty
  | empty =>
      obtain ⟨same, -, unmoved⟩ | ⟨⟨item, taken⟩, -⟩ :=
        (endures.spans (by rw [alive, Bool.or_true])).takeOldest_cases
      · rw [unmoved] at failed ⊢
        cases closed : channel.closed with
        | true => simp [closed] at failed
        | false => exact endures.foretells_empty repeats side closed same
      · rw [taken] at failed
        cases failed

theorem Endures.foretells_act [Nonempty α] {action : Action α}
    (endures : channel.Endures bound)
    (failed : (channel.call (.act action)).result.upshot = .failed status) :
    (channel.call (.act action)).state.Foretells (.act action) status := by
  change Reply.upshot (.plain (channel.perform action).result) = .failed status at failed
  change (channel.perform action).state.Foretells (.act action) status
  cases action with
  | trySend value =>
      rw [perform, ifSender] at failed ⊢
      split at failed
      · next alive =>
          rw [if_pos alive]
          cases result : (channel.trySend value).result with
          | ok => simp [result, Reply.upshot] at failed
          | error error =>
              simp only [Outcome.mapResult_result, result, Reply.upshot] at failed
              cases failed
              exact endures.foretells_trySend result alive
      · cases failed
  | tryReceive =>
      rw [perform, ifReceiver] at failed ⊢
      split at failed
      · next alive =>
          rw [if_pos alive]
          cases result : channel.takeOldest.result with
          | ok => simp [tryReceive, result, Reply.upshot] at failed
          | error absence =>
              simp only [tryReceive, Outcome.mapResult_result, result, Reply.upshot] at failed
              cases failed
              exact endures.foretells_takeOldest result alive .tryReceive rfl
      · cases failed
  | receiveInto register =>
      rw [perform, ifReceiver] at failed ⊢
      split at failed
      · next alive =>
          rw [if_pos alive, Outcome.mapResult_state, receiveInto_state]
          cases result : channel.takeOldest.result with
          | ok => simp [receiveInto, result, Reply.upshot] at failed
          | error absence =>
              have same : absence.toError.status = status := by
                cases absence <;> simpa [receiveInto, result, Reply.upshot, Absence.toError,
                  TryReceiveError.status] using failed
              rw [← same]
              exact endures.foretells_takeOldest result alive (.receiveInto ..) rfl
      · cases failed
  | describe => cases failed
  | unknown => cases failed
  | drain limit feed =>
      rw [perform, ifReceiver] at failed
      split at failed <;> cases failed
  | dropSender =>
      rw [perform, ifSender] at failed
      split at failed <;> cases failed
  | dropReceiver =>
      rw [perform, ifReceiver] at failed
      split at failed <;> cases failed

/-- The status of whatever fails is right. -/
theorem Endures.foretells [Nonempty α] (endures : channel.Endures bound)
    (failed : (channel.call call).result.upshot = .failed status) :
    (channel.call call).state.Foretells call status := by
  cases call with
  | send value script =>
      rw [Channel.call] at failed ⊢
      split at failed
      · next alive =>
          rw [if_pos alive]
          cases result : (channel.send value script).result with
          | ok => simp [result, Reply.upshot] at failed
          | error error =>
              simp only [Outcome.mapResult_result, result, Reply.upshot] at failed
              cases failed
              exact foretells_of_closed (.send ..) rfl (endures.closed_of_send_failed result)
      · cases failed
  | receive script =>
      rw [Channel.call] at failed ⊢
      split at failed
      · next alive =>
          rw [if_pos alive]
          cases result : (channel.receive script).result with
          | ok => simp [result, Reply.upshot] at failed
          | error error =>
              simp only [Outcome.mapResult_result, result, Reply.upshot] at failed
              cases failed
              exact foretells_of_exhausted (.receive ..) rfl
                (endures.exhausted_of_receive_failed result)
      · cases failed
  | act action => exact endures.foretells_act failed

theorem foretells_after [Nonempty α] {overflow : Overflow} {requested : Nat}
    {created : Step α Unit} (made : create overflow requested = .ok created)
    (calls : List (Call α))
    (failed : ((created.state.after calls).call call).result.upshot = .failed status) :
    ((created.state.after calls).call call).state.Foretells call status := by
  obtain ⟨bound, endures⟩ := endures_of_create made
  exact ((stable_endures bound).after endures calls).foretells failed

end Channel

end Handoff.Ring
