import Handoff.Proofs.OneShot.Delivery
import Handoff.Proofs.Outlook

namespace Handoff.OneShot

/-! Whether it helps to try again on a one-shot channel.  Only a receiver that came too early
has reason to; what else can go wrong has gone wrong for good, as the history cannot be undone.
-/

def Answer.upshot : Answer α → Upshot
  | .done | .received _ => .succeeded
  | .notSent error => .failed (Failure.status error)
  | .notReceived error => .failed (Failure.status error)
  | .register status _ => if status = .success then .succeeded else .failed status
  | .described .. | .gone | .refused => .untried

def Reply.upshot (reply : Reply α) : Upshot :=
  reply.answer.upshot

/-- The end that sends or receives in a call. -/
def Call.side : Call α → Side
  | .act (.send _) | .act .dropSender => .sender
  | .act _ | .receive _ => .receiver

/-- The same operation is tried again, be it with another value, another register or another
peer. -/
inductive Call.Repeats : Call α → Call α → Prop where
  | send (value other : α) : Repeats (.act (.send value)) (.act (.send other))
  | tryReceive : Repeats (.act .tryReceive) (.act .tryReceive)
  | receiveInto (register other : α) :
      Repeats (.act (.receiveInto register)) (.act (.receiveInto other))
  | receive (script others : List (List (Action α))) : Repeats (.receive script) (.receive others)

namespace Channel

def alive (channel : Channel α) : Side → Bool
  | .sender => channel.senderAlive
  | .receiver => channel.receiverAlive

/-- Nothing is asked of an end that is gone. -/
def OnLiveEnds (channel : Channel α) (calls : List (Call α)) : Prop :=
  ∀ turn ∈ channel.turns calls, turn.reply ≠ .plain .gone

/-- A call that has failed with this status has left the channel. -/
def Foretells (left : Channel α) (call : Call α) (status : Status) : Prop :=
  status.Foretells left.OnLiveEnds (fun further => (left.after further).alive call.side = true)
    (fun further again => ((left.after further).call again).result.upshot) call call.Repeats

end Channel

/-! What the history says. -/

variable {past more : History α} {action : Action α} {answer : Answer α}

theorem Lawful.eq_expected (lawful : Lawful (past ++ [(action, answer)]))
    (stays : action ≠ .dropReceiver) : answer = expected past action := by
  generalize whole : past ++ [(action, answer)] = history at lawful
  cases lawful with
  | nil => simp at whole
  | @snoc before _ other =>
      obtain ⟨rfl, last⟩ := List.append_inj' whole rfl
      cases last
      rfl
  | @blocked before =>
      obtain ⟨rfl, last⟩ := List.append_inj' whole rfl
      cases last
      exact absurd rfl stays

theorem senderLeft_of_prefix {earlier : History α} (begins : earlier <+: past)
    (left : senderLeft earlier = true) : senderLeft past = true := by
  obtain ⟨rest, rfl⟩ := begins
  rw [senderLeft_append, left, Bool.true_or]

/-- Nothing is offered by a sender that has left. -/
theorem Lawful.offeredIn_of_left {earlier : History α} (lawful : Lawful past)
    (begins : earlier <+: past) (left : senderLeft earlier = true) :
    offeredIn past = offeredIn earlier := by
  induction lawful with
  | nil => rw [List.prefix_nil.mp begins]
  | @snoc past lawful action ih =>
      obtain rfl | begins := List.prefix_concat_iff.mp begins
      · rfl
      · have away := senderLeft_of_prefix begins left
        have nothing : offeredIn [(action, expected past action)] = [] := by
          cases action with
          | send value => simp [expected, away, offeredIn]
          | _ => rfl
        rw [offeredIn_append, nothing, List.append_nil, ih begins]
  | blocked lawful ih =>
      obtain rfl | begins := List.prefix_concat_iff.mp begins
      · rfl
      · rw [offeredIn_append, ih begins]
        exact List.append_nil _

/-- Whoever did not come too early cannot come in time any more. -/
theorem Lawful.verdict_lasts {earlier : History α} {error : TryReceiveError}
    (lawful : Lawful past) (begins : earlier <+: past) (failed : verdict earlier = .error error)
    (final : error ≠ .empty) : verdict past = .error error := by
  cases error with
  | empty => exact absurd rfl final
  | received =>
      obtain ⟨rest, rfl⟩ := begins
      rw [verdict_eq_received, receivedIn_append] at *
      exact fun none => failed (List.append_eq_nil_iff.mp none).1
  | closed =>
      obtain ⟨nothing, left⟩ := (lawful.of_prefix begins).verdicts.closed.mp failed
      refine lawful.verdicts.closed.mpr ⟨?_, senderLeft_of_prefix begins left⟩
      rw [lawful.offeredIn_of_left begins left, nothing]

/-- What an attempt to receive comes to. -/
def upshotOf : Except TryReceiveError α → Upshot
  | .ok _ => .succeeded
  | .error error => .failed error.status

variable {call again : Call α}

theorem upshot_receive (repeats : call.Repeats again) (side : call.side = .receiver)
    (past : History α) :
    (expected past again.attempt).upshot =
      if receiverLeft past then .untried else upshotOf (verdict past) := by
  cases repeats with
  | send => cases side
  | receiveInto register other =>
      rw [Call.attempt, expected]
      cases receiverLeft past with
      | true => rfl
      | false =>
          cases verdict past with
          | ok value => rfl
          | error error => cases error <;> rfl
  | _ =>
      rw [Call.attempt, expected]
      cases receiverLeft past with
      | true => rfl
      | false => cases verdict past <;> rfl

theorem upshot_send (past : History α) (value : α) :
    (expected past (.send value)).upshot =
      if senderLeft past then .untried
      else if (offeredIn past).isEmpty then .succeeded else .failed .senderClosed := by
  rw [expected]
  cases senderLeft past <;> cases (offeredIn past).isEmpty <;> rfl

/-- An attempt to receive leaves no other trace in the history. -/
theorem Call.Repeats.receives (repeats : call.Repeats call) (side : call.side = .receiver)
    (answer : Answer α) : offeredIn [(call.attempt, answer)] = [] ∧
      senderLeft [(call.attempt, answer)] = false ∧
      receiverLeft [(call.attempt, answer)] = false := by
  cases repeats with
  | send => cases side
  | _ => exact ⟨rfl, rfl, rfl⟩

variable {status : Status} {value : α}

theorem receive_failed (repeats : call.Repeats again) (side : call.side = .receiver)
    (failed : (expected past again.attempt).upshot = .failed status) :
    receiverLeft past = false ∧ ∃ error, verdict past = .error error ∧ error.status = status := by
  rw [upshot_receive repeats side] at failed
  split at failed
  · cases failed
  next stays =>
    cases came : verdict past with
    | ok value =>
        rw [came] at failed
        cases failed
    | error error =>
        rw [came] at failed
        exact ⟨Bool.eq_false_iff.mpr stays, error, rfl, Upshot.failed.inj failed⟩

theorem send_failed (failed : (expected past (.send value)).upshot = .failed status) :
    offeredIn past ≠ [] ∧ status = .senderClosed := by
  rw [upshot_send] at failed
  split at failed
  · cases failed
  · split at failed
    · cases failed
    · next offered => exact ⟨by simpa using offered, (Upshot.failed.inj failed).symm⟩

namespace Channel

variable {channel : Channel α}

/-- Only an end that is there can send or receive. -/
theorem alive_of_succeeded (repeats : call.Repeats again)
    (succeeded : (channel.call call).result.upshot = .succeeded) :
    channel.alive call.side = true := by
  cases alive : channel.alive call.side with
  | true => rfl
  | false =>
      have gone : (channel.call call).result = .plain .gone := by
        cases repeats
        all_goals
          simp only [Call.side, Channel.alive] at alive
          simp [Channel.call, asEntries, perform, ifSender, ifReceiver, alive]
      rw [gone] at succeeded
      cases succeeded

/-- A receiver that does not have to wait gets what the history says. -/
theorem Recalls.upshot_of_decided (recalls : channel.Recalls past) (repeats : call.Repeats again)
    (side : call.side = .receiver) (alive : channel.receiverAlive = true)
    (decided : ¬Pending past) :
    (channel.call again).result.upshot = upshotOf (verdict past) := by
  have stays : receiverLeft past = false := by simpa [alive] using recalls.receiverAlive
  have answered : (channel.call again).result.answer = expected past again.attempt := by
    cases repeats with
    | send => cases side
    | tryReceive => exact recalls.answer .tryReceive
    | receiveInto register other => exact recalls.answer (.receiveInto other)
    | receive script others =>
        have unempty := mt (recalls.empty_iff alive).mp decided
        obtain ⟨-, -, answer⟩ := receiveLast_eq alive unempty
        rw [Channel.call, if_pos alive, receive_of_decided unempty]
        exact answer.trans (recalls.answer .tryReceive)
  rw [Reply.upshot, answered, upshot_receive repeats side, stays]
  rfl

/-- What a call has come to is in the history that it leaves behind. -/
theorem Recalls.answered (recalls : channel.Recalls past) (repeats : call.Repeats again) :
    ∃ before, (channel.call again).result.answer = expected before again.attempt ∧
      (channel.call again).state.Recalls
        (before ++ [(again.attempt, expected before again.attempt)]) := by
  have left := recalls.call again
  rw [← List.append_assoc] at left
  have answer := left.lawful.eq_expected (by cases repeats <;> simp [Call.attempt])
  exact ⟨_, answer, answer ▸ left⟩

/-- A sender has one value to send, and no other after it. -/
theorem Recalls.foretells_offered (recalls : channel.Recalls past) (value : α)
    (offered : offeredIn past ≠ []) : channel.Foretells (.act (.send value)) .senderClosed := by
  have repeats : (Call.act (.send value)).Repeats (.act (.send value)) := .send value value
  refine .of_lasts rfl repeats (fun _ => alive_of_succeeded repeats) ?_
  rintro further alive _ (⟨_, other⟩ | _ | _ | _)
  have later := recalls.after further
  have stays := later.senderAlive.symm.trans alive
  rw [Bool.not_eq_true'] at stays
  have still : (offeredIn (past ++ historyOf (channel.turns further))).isEmpty = false := by
    rw [offeredIn_append, List.isEmpty_eq_false_iff]
    exact List.append_ne_nil_of_left_ne_nil offered _
  have tried := congrArg Answer.upshot (later.answer (.send other))
  rwa [upshot_send, stays, still] at tried

/-- What a receiver has missed for good it does not get later. -/
theorem Recalls.foretells_final {error : TryReceiveError} (recalls : channel.Recalls past)
    (repeats : call.Repeats call) (side : call.side = .receiver)
    (failed : verdict past = .error error) (final : error ≠ .empty) :
    channel.Foretells call error.status := by
  refine .of_lasts (by cases error <;> first | rfl | exact absurd rfl final) repeats
    (fun _ => alive_of_succeeded repeats) fun further alive again isAgain => ?_
  have later := recalls.after further
  have still := later.lawful.verdict_lasts (List.prefix_append _ _) failed final
  rw [side] at alive
  rw [later.upshot_of_decided isAgain side alive, still]
  · rfl
  · intro pending
    rw [later.lawful.verdicts.empty.mpr pending] at still
    cases still
    exact final rfl

/-- A receiver that came too early gets the value once it is sent. -/
theorem Recalls.foretells_empty [Nonempty α] (recalls : channel.Recalls past)
    (repeats : call.Repeats call) (side : call.side = .receiver) (pending : Pending past)
    (stays : receiverLeft past = false) : channel.Foretells call .channelEmpty := by
  obtain ⟨value⟩ := ‹Nonempty α›
  obtain ⟨unsent, here⟩ := pending
  have done : expected past (.send value) = .done := by rw [expected, here, unsent]; rfl
  have sent := recalls.perform (.send value)
  have answer := recalls.answer (.send value)
  rw [answer, done] at sent
  have arrives : verdict (past ++ [(.send value, .done)]) = .ok value := by
    have none := recalls.lawful.received_prefix
    rw [unsent, List.take_nil, List.prefix_nil] at none
    rw [verdict_eq_ok, receivedIn_append, offeredIn_append, none, unsent]
    exact ⟨rfl, rfl⟩
  have alive : (channel.perform (.send value)).state.receiverAlive = true := by
    rw [sent.receiverAlive, receiverLeft_append, stays]
    rfl
  have live : channel.OnLiveEnds [.act (.send value)] := by
    rintro turn (_ | later)
    · rw [show (channel.call (.act (.send value))).result = .plain .done from
        congrArg Reply.plain (answer.trans done)]
      simp
    · contradiction
  refine .of_passes rfl repeats live fun again isAgain => ?_
  change ((channel.perform (.send value)).state.call again).result.upshot = .succeeded
  rw [sent.upshot_of_decided isAgain side alive, arrives]
  · rfl
  · rintro ⟨nothing, -⟩
    rw [offeredIn_append, unsent] at nothing
    cases nothing

theorem repeats_of_failed (failed : (channel.call call).result.upshot = .failed status) :
    call.Repeats call := by
  cases call with
  | receive script => exact .receive script script
  | act action =>
      change (channel.perform action).result.upshot = .failed status at failed
      cases action with
      | send value => exact .send value value
      | tryReceive => exact .tryReceive
      | receiveInto register => exact .receiveInto register register
      | dropSender =>
          rw [perform, ifSender] at failed
          split at failed <;> cases failed
      | dropReceiver =>
          rw [perform, ifReceiver] at failed
          split at failed <;> cases failed
      | describe => cases failed
      | unknown => cases failed

/-- The status of whatever fails is right. -/
theorem Recalls.foretells [Nonempty α] (recalls : channel.Recalls past)
    (failed : (channel.call call).result.upshot = .failed status) :
    (channel.call call).state.Foretells call status := by
  have repeats := repeats_of_failed failed
  obtain ⟨before, answer, left⟩ := recalls.answered repeats
  rw [Reply.upshot, answer] at failed
  cases side : call.side with
  | sender =>
      cases repeats with
      | send value _ =>
          obtain ⟨offered, rfl⟩ := send_failed failed
          refine left.foretells_offered value ?_
          rw [offeredIn_append]
          exact List.append_ne_nil_of_left_ne_nil offered _
      | _ => cases side
  | receiver =>
      obtain ⟨stays, error, came, rfl⟩ := receive_failed repeats side failed
      have begins := List.prefix_append before [(call.attempt, expected before call.attempt)]
      by_cases early : error = .empty
      · subst early
        obtain ⟨unsent, here⟩ := (left.lawful.of_prefix begins).verdicts.empty.mp came
        obtain ⟨offers, senderStays, receiverStays⟩ :=
          repeats.receives side (expected before call.attempt)
        refine left.foretells_empty repeats side ⟨?_, ?_⟩ ?_
        · rw [offeredIn_append, unsent, offers]
          rfl
        · rw [senderLeft_append, here, senderStays]
          rfl
        · rw [receiverLeft_append, stays, receiverStays]
          rfl
      · have still := left.lawful.verdict_lasts begins came early
        exact left.foretells_final repeats side still early

end Channel

end Handoff.OneShot
