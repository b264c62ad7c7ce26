import Handoff.Proofs.OneShot.Coherence
import Handoff.Proofs.Ring.Failures

namespace Handoff

/-! Calls that fail can be struck from the history of a ring or of a one-shot channel, and
nobody can tell.  A one-shot channel is not even touched by them.
-/

namespace OneShot

/-- Nothing was sent or received. -/
def Answer.failed : Answer α → Bool
  | .notSent _ | .notReceived _ => true
  | .register status _ => status != .success
  | .done | .received _ | .described .. | .gone | .refused => false

/-- What was lent to an action that failed comes back. -/
def Action.Restores : Action α → Answer α → Prop
  | .send value, .notSent error => error.value = value
  | .receiveInto register, .register _ content => content = register
  | _, _ => True

namespace Turn

def failed (turn : Turn α) : Bool :=
  match turn.reply with
  | .plain answer => answer.failed
  | .received _ => false

/-- Nothing is logged, so nothing is destroyed and nobody is notified, and nothing that was
lent is lost. -/
structure Harmless (turn : Turn α) : Prop where
  silent : turn.log = []
  restores : ∀ action answer, turn.call = .act action → turn.reply = .plain answer →
    action.Restores answer

end Turn

namespace Channel

variable {channel : Channel α} {action : Action α} {actions : List (Action α)}
  {turn : Turn α} {kept : List (Turn α)}

theorem Coherent.tryReceive_failed {error : TryReceiveError} (coherent : channel.Coherent)
    (there : channel.present = true) (failed : channel.tryReceive.result = .error error) :
    channel.tryReceive = ⟨.error error, channel, []⟩ := by
  obtain ⟨-, tried⟩ | ⟨-, tried⟩ | ⟨-, tried⟩ | ⟨value, -, -, tried⟩ :=
    coherent.tryReceive_cases there
  all_goals
    rw [tried] at failed ⊢
    cases failed
  all_goals rfl

/-- An action that fails changes nothing, logs nothing and keeps nothing. -/
theorem Coherent.perform_failed (coherent : channel.Coherent)
    (failed : (channel.perform action).result.failed = true) :
    (channel.perform action).state = channel ∧ (channel.perform action).log = [] ∧
      action.Restores (channel.perform action).result := by
  cases action with
  | send value =>
      rw [Channel.perform, ifSender] at failed ⊢
      split at failed
      · next alive =>
          rw [if_pos alive]
          cases sent : channel.hasSent with
          | true =>
              rw [send_of_sent sent]
              exact ⟨rfl, rfl, rfl⟩
          | false =>
              rw [coherent.send_of_unsent (by simp [present, alive]) sent] at failed
              cases failed
      · cases failed
  | tryReceive =>
      rw [Channel.perform, ifReceiver] at failed ⊢
      split at failed
      · next alive =>
          rw [if_pos alive]
          cases tried : channel.tryReceive.result with
          | ok value => simp [tried, Answer.failed] at failed
          | error error =>
              rw [coherent.tryReceive_failed (by simp [present, alive]) tried]
              exact ⟨rfl, rfl, trivial⟩
      · cases failed
  | receiveInto register =>
      rw [Channel.perform, ifReceiver] at failed ⊢
      split at failed
      · next alive =>
          rw [if_pos alive]
          cases tried : channel.tryReceive.result with
          | ok value => simp [receiveInto, tried, Answer.failed] at failed
          | error error =>
              rw [receiveInto, coherent.tryReceive_failed (by simp [present, alive]) tried]
              exact ⟨rfl, rfl, rfl⟩
      · cases failed
  | dropSender =>
      rw [Channel.perform, ifSender] at failed
      split at failed <;> cases failed
  | dropReceiver =>
      rw [Channel.perform, ifReceiver] at failed
      split at failed <;> cases failed
  | describe => cases failed
  | unknown => cases failed

/-- A run without some of what failed is the same run. -/
theorem Coherent.turns_erased (coherent : channel.Coherent)
    (erases : Erases Turn.failed Eq (channel.turns (actions.map .act)) kept) :
    channel.turns (kept.map Turn.call) = kept ∧
      channel.after (kept.map Turn.call) = channel.after (actions.map .act) := by
  induction actions generalizing channel kept with
  | nil =>
      cases erases
      exact ⟨rfl, rfl⟩
  | cons action rest ih =>
      have next : (channel.call (.act action)).state.Coherent := coherent.perform action
      simp only [List.map_cons, turns] at erases
      cases erases with
      | keep same later =>
          obtain ⟨answered, ended⟩ := ih next later
          subst same
          refine ⟨?_, ended⟩
          simp only [List.map_cons, Channel.turns, answered]
      | erase fails later =>
          have unmoved : (channel.call (.act action)).state = channel :=
            (coherent.perform_failed fails).1
          rw [unmoved] at later
          obtain ⟨answered, ended⟩ := ih coherent later
          refine ⟨answered, ?_⟩
          rw [ended]
          simp [after, unmoved]

theorem Coherent.turns_harmless (coherent : channel.Coherent)
    (inside : turn ∈ channel.turns (actions.map .act)) (failed : turn.failed = true) :
    turn.Harmless := by
  induction actions generalizing channel with
  | nil => cases inside
  | cons action rest ih =>
      simp only [List.map_cons, turns, List.mem_cons] at inside
      obtain rfl | later := inside
      · obtain ⟨-, log, restores⟩ := @Coherent.perform_failed _ channel action coherent failed
        refine ⟨congrArg (List.map Entry.event) log, ?_⟩
        rintro _ _ ⟨⟩ ⟨⟩
        exact restores
      · exact ih (coherent.perform action) later

/-- A run comes out the same without the turns that are missing from `kept`. -/
structure SameWithout (channel : Channel α) (actions : List (Action α))
    (kept : List (Turn α)) : Prop where
  turns : channel.turns (kept.map Turn.call) = kept
  log : kept.flatMap Turn.log = (channel.turns (actions.map .act)).flatMap Turn.log
  reports : (channel.after (kept.map Turn.call)).reports =
    (channel.after (actions.map .act)).reports

/-- What failed can be left out of a run, all of it or in part. -/
structure ForgetsFailures (channel : Channel α) (actions : List (Action α)) : Prop where
  all : channel.SameWithout actions
    ((channel.turns (actions.map .act)).filter fun turn => !turn.failed)
  any : ∀ kept, Erases Turn.failed Eq (channel.turns (actions.map .act)) kept →
    channel.SameWithout actions kept
  harmless : ∀ turn ∈ channel.turns (actions.map .act), turn.failed = true → turn.Harmless
  /-- Right after a failure, both ends report what they reported before it. -/
  unseen : ∀ before action, before ++ [action] <+: actions →
    let reached := channel.after (before.map .act)
    (reached.perform action).result.failed = true →
      (reached.perform action).state.reports = reached.reports

theorem Coherent.forgetsFailures (coherent : channel.Coherent) (actions : List (Action α)) :
    channel.ForgetsFailures actions := by
  have any : ∀ kept, Erases Turn.failed Eq (channel.turns (actions.map .act)) kept →
      channel.SameWithout actions kept := by
    intro kept erases
    obtain ⟨answered, ended⟩ := coherent.turns_erased erases
    refine ⟨answered, erases.flatMap_eq Turn.log ?_ ?_, congrArg reports ended⟩
    · rintro turn _ rfl
      rfl
    · exact fun turn inside failed => (coherent.turns_harmless inside failed).silent
  refine ⟨any _ (Erases.filter Eq.refl _), any, fun turn => coherent.turns_harmless, ?_⟩
  intro before action _ reached failed
  have reached_coherent : reached.Coherent :=
    after_kept (fun _ action coherent => coherent.perform action) coherent _
  rw [(reached_coherent.perform_failed failed).1]

end Channel

end OneShot

/-- Nobody can tell whether calls that failed were made at all.  Without them every other
call is answered as before and logs the same, and both ends report the same after it; a
drain may also stop before the step that found nothing. -/
theorem failures_can_be_erased {overflow : Overflow} {requested : Nat}
    {created : Ring.Channel.Step α Unit}
    (made : Ring.Channel.create overflow requested = .ok created)
    (actions : List (Ring.Action α))
    (few : (Ring.Ledger.ofTurns (created.state.turns (actions.map .act))).accepted.length <
      Ring.Cursor.horizon)
    (others : List (OneShot.Action α)) :
    created.state.ForgetsFailures actions ∧
      ({} : OneShot.Channel α).ForgetsFailures others :=
  ⟨Ring.Channel.forgetsFailures_of_create made actions few,
    OneShot.Channel.coherent_new.forgetsFailures others⟩

/-- A full ring refuses a value and an empty one has none to give, and the one-shot channel
is sent a second value and is asked too early and too late. -/
theorem five_failures_erased :
    let ring := Ring.Channel.ofSize .wait 2
    let channel : OneShot.Channel Nat := {}
    let actions : List (Ring.Action Nat) :=
      [.trySend 1, .trySend 2, .tryReceive, .receiveInto 9, .trySend 3, .dropSender,
        .drain none [], .dropReceiver]
    let others : List (OneShot.Action Nat) :=
      [.tryReceive, .send 5, .send 6, .dropSender, .receiveInto 7, .tryReceive]
    ring.turns [.act (.trySend 1), .act .tryReceive, .act (.trySend 3), .act .dropSender,
        .act (.drain none []), .act .dropReceiver] =
      (ring.turns (actions.map .act)).filter (fun turn => !turn.failed) ∧
    channel.turns [.act (.send 5), .act .dropSender, .act (.receiveInto 7)] =
      (channel.turns (others.map .act)).filter (fun turn => !turn.failed) := by
  intro ring channel actions others
  obtain ⟨rings, channels⟩ := @failures_can_be_erased Nat .wait 2
    ⟨(), ring, [.noted (.ringCreated 2 2 false)]⟩ rfl actions (by decide +kernel) others
  have calls : ((ring.turns (actions.map .act)).filter fun turn => !turn.failed).map
      Ring.Turn.call = [.act (.trySend 1), .act .tryReceive, .act (.trySend 3),
        .act .dropSender, .act (.drain none []), .act .dropReceiver] := by decide +kernel
  have otherCalls : ((channel.turns (others.map .act)).filter fun turn => !turn.failed).map
      OneShot.Turn.call = [.act (.send 5), .act .dropSender, .act (.receiveInto 7)] := by
    decide +kernel
  exact ⟨calls ▸ rings.all.turns, otherCalls ▸ channels.all.turns⟩

end Handoff
