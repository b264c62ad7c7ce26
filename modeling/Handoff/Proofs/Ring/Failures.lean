import Handoff.Proofs.Ring.Caches

namespace Handoff

/-- The second run is the first without some of the turns that failed.  A turn that stays
may have tried less, if it came to the same. -/
inductive Erases (failed : τ → Bool) (trims : τ → τ → Prop) : List τ → List τ → Prop
  | nil : Erases failed trims [] []
  | keep {turn less : τ} {turns kept : List τ} (trimmed : trims turn less)
      (rest : Erases failed trims turns kept) : Erases failed trims (turn :: turns) (less :: kept)
  | erase {turn : τ} {turns kept : List τ} (fails : failed turn = true)
      (rest : Erases failed trims turns kept) : Erases failed trims (turn :: turns) kept

namespace Erases

variable {failed : τ → Bool} {trims : τ → τ → Prop} {turns kept : List τ}

/-- All that failed can be left out at once. -/
theorem filter (whole : ∀ turn, trims turn turn) (turns : List τ) :
    Erases failed trims turns (turns.filter fun turn => !failed turn) := by
  induction turns with
  | nil => exact .nil
  | cons turn rest ih =>
      cases fails : failed turn with
      | true =>
          rw [List.filter_cons_of_neg (by simp [fails])]
          exact .erase fails ih
      | false =>
          rw [List.filter_cons_of_pos (by simp [fails])]
          exact .keep (whole turn) ih

/-- If what failed is silent, nothing is missing from the log. -/
theorem flatMap_eq (erases : Erases failed trims turns kept) (log : τ → List ε)
    (same : ∀ turn less, trims turn less → log less = log turn)
    (silent : ∀ turn ∈ turns, failed turn = true → log turn = []) :
    kept.flatMap log = turns.flatMap log := by
  induction erases with
  | nil => rfl
  | keep trimmed _ ih =>
      obtain ⟨-, later⟩ := List.forall_mem_cons.mp silent
      rw [List.flatMap_cons, List.flatMap_cons, same _ _ trimmed, ih later]
  | erase fails _ ih =>
      obtain ⟨now, later⟩ := List.forall_mem_cons.mp silent
      rw [List.flatMap_cons, now fails, List.nil_append, ih later]

end Erases

namespace Ring

/-! A call that fails changes nothing but what its end remembers of the other, and that is
forgotten by the queue the channel represents.  So a run without such calls is, to the
queue, the same run, and the channel answers as the queue does.
-/

/-- Nothing was sent or received. -/
def Answer.failed : Answer α → Bool
  | .notSent _ | .notReceived _ => true
  | .register status _ => status != .success
  | .drained result => result.items.isEmpty
  | .done | .received _ | .described .. | .gone | .refused => false

/-- What was lent to an action that failed comes back. -/
def Action.Restores : Action α → Answer α → Prop
  | .trySend value, .notSent error => error.value = value
  | .receiveInto register, .register _ content => content = register
  | _, _ => True

namespace Turn

def failed (turn : Turn α) : Bool :=
  match turn.reply with
  | .plain answer => answer.failed
  | .sent _ | .received _ => false

/-- A drain may stop before the step that finds nothing. -/
inductive Trims : Turn α → Turn α → Prop
  | whole (turn : Turn α) : Trims turn turn
  | drain (limit : Option Nat) (feed : List α) (result : Drained α)
      (log : List (ChannelEntry α)) (reports : EndReports) :
      Trims ⟨.act (.drain limit feed), .plain (.drained result), log, reports⟩
        ⟨.act (.drain (some result.items.length) feed), .plain (.drained result), log, reports⟩

/-- Nothing is logged, so nothing is destroyed and nobody is notified, and nothing that was
lent is lost. -/
structure Harmless (turn : Turn α) : Prop where
  silent : turn.log = []
  restores : ∀ action answer, turn.call = .act action → turn.reply = .plain answer →
    action.Restores answer

theorem Trims.log_eq {turn less : Turn α} (trimmed : turn.Trims less) : less.log = turn.log := by
  cases trimmed <;> rfl

end Turn

namespace Queue

variable {queue : Queue α} {action : Action α}

/-! One action. -/

theorem tryReceive_failed {error : TryReceiveError}
    (failed : queue.tryReceive.result = .error error) :
    queue.tryReceive = ⟨.error error, queue, []⟩ := by
  cases items : queue.items with
  | nil =>
      rw [tryReceive_of_nil items] at failed ⊢
      rw [← failed]
  | cons item rest =>
      rw [tryReceive_of_cons items] at failed
      cases failed

theorem drainFor_failed {count : Nat} {feed : List α}
    (failed : (drainFor count queue feed).result = []) :
    drainFor count queue feed = ⟨[], queue, []⟩ := by
  cases items : queue.items with
  | nil => exact drainFor_of_nil count items feed
  | cons item rest =>
      cases count with
      | zero => rfl
      | succ count => simp [drainFor, tryReceive_of_cons items] at failed

/-- An action that fails changes nothing, logs nothing and keeps nothing. -/
theorem perform_failed (failed : (queue.perform action).result.failed = true) :
    (queue.perform action).state = queue ∧ (queue.perform action).log = [] ∧
      action.Restores (queue.perform action).result := by
  cases action with
  | trySend value =>
      rw [perform] at failed ⊢
      split at failed
      · next alive =>
          rw [if_pos alive]
          cases tried : (queue.trySend value).result with
          | ok => simp [tried, Answer.failed] at failed
          | error error =>
              obtain ⟨same, rejected⟩ := trySend_rejected tried
              rw [rejected]
              exact ⟨rfl, rfl, same⟩
      · cases failed
  | tryReceive =>
      rw [perform] at failed ⊢
      split at failed
      · next alive =>
          rw [if_pos alive]
          cases tried : queue.tryReceive.result with
          | ok value => simp [tried, Answer.failed] at failed
          | error error =>
              rw [tryReceive_failed tried]
              exact ⟨rfl, rfl, trivial⟩
      · cases failed
  | receiveInto register =>
      rw [perform] at failed ⊢
      split at failed
      · next alive =>
          rw [if_pos alive]
          cases items : queue.items with
          | nil =>
              rw [receiveInto_of_nil items]
              exact ⟨rfl, rfl, rfl⟩
          | cons item rest => simp [receiveInto_of_cons items, Answer.failed] at failed
      · cases failed
  | drain limit feed =>
      rw [perform] at failed ⊢
      split at failed
      · next alive =>
          rw [if_pos alive]
          have nothing := drainFor_failed (List.isEmpty_iff.mp failed)
          exact ⟨congrArg Outcome.state nothing, congrArg Outcome.log nothing, trivial⟩
      · cases failed
  | dropSender =>
      rw [perform] at failed
      split at failed <;> cases failed
  | dropReceiver =>
      rw [perform] at failed
      split at failed <;> cases failed
  | describe => cases failed
  | unknown => cases failed

theorem drainFor_result_length (count : Nat) (queue : Queue α) (feed : List α) :
    (drainFor count queue feed).result.length ≤ count := by
  induction count generalizing queue feed with
  | zero => exact Nat.le_refl _
  | succ count ih =>
      cases items : queue.items with
      | nil => simp [drainFor_of_nil _ items]
      | cons item rest =>
          simp only [drainFor, tryReceive_of_cons items, List.length_cons]
          exact Nat.succ_le_succ (ih _ _)

/-- The steps that a drain takes after it has found nothing do nothing. -/
theorem drainFor_trimmed (count : Nat) (queue : Queue α) (feed : List α) :
    drainFor (drainFor count queue feed).result.length queue feed =
      drainFor count queue feed := by
  induction count generalizing queue feed with
  | zero => rfl
  | succ count ih =>
      cases items : queue.items with
      | nil => rw [drainFor_of_nil _ items, drainFor_of_nil _ items]
      | cons item rest => simp only [drainFor, tryReceive_of_cons items, List.length_cons, ih]

theorem drain_trimmed (queue : Queue α) (limit : Option Nat) (feed : List α) :
    queue.drain (some (queue.drain limit feed).result.items.length) feed =
      queue.drain limit feed := by
  have bounded : (queue.drain limit feed).result.items.length ≤
      queue.items.length + feed.length :=
    Nat.le_trans (drainFor_result_length _ queue feed) (Nat.min_le_right _ _)
  simp only [drain] at bounded ⊢
  rw [Option.getD_some, Nat.min_eq_left bounded, drainFor_trimmed]

theorem perform_drain_trimmed {limit : Option Nat} {feed : List α} {result : Drained α}
    (drained : (queue.perform (.drain limit feed)).result = .drained result) :
    queue.perform (.drain (some result.items.length) feed) =
      queue.perform (.drain limit feed) := by
  rw [perform] at drained
  split at drained
  · next alive =>
      obtain rfl : (queue.drain limit feed).result = result := Answer.drained.inj drained
      rw [perform, perform, drain_trimmed]
  · cases drained

/-! A whole run. -/

theorem call_of_trims {less : Turn α} {reports : EndReports}
    (trimmed : Turn.Trims ⟨.act action, (queue.call (.act action)).result,
      (queue.call (.act action)).log, reports⟩ less) :
    ∃ lesser : Action α, less = ⟨.act lesser, (queue.call (.act action)).result,
        (queue.call (.act action)).log, reports⟩ ∧
      queue.call (.act lesser) = queue.call (.act action) := by
  generalize result : (queue.call (.act action)).result = reply at trimmed
  cases trimmed with
  | whole => exact ⟨action, rfl, rfl⟩
  | drain limit feed drained =>
      refine ⟨.drain (some drained.items.length) feed, rfl, ?_⟩
      rw [call, call, perform_drain_trimmed (Reply.plain.inj result)]

/-- To the queue, a run without some of what failed is the same run. -/
theorem turns_erased {actions : List (Action α)} {kept : List (Turn α)}
    (erases : Erases Turn.failed Turn.Trims (queue.turns (actions.map .act)) kept) :
    ∃ fewer : List (Action α), kept.map Turn.call = fewer.map .act ∧
      queue.turns (fewer.map .act) = kept ∧
      queue.after (fewer.map .act) = queue.after (actions.map .act) := by
  induction actions generalizing queue kept with
  | nil =>
      cases erases
      exact ⟨[], rfl, rfl, rfl⟩
  | cons action rest ih =>
      simp only [List.map_cons, turns] at erases
      cases erases with
      | keep trimmed later =>
          obtain ⟨lesser, rfl, same⟩ := call_of_trims trimmed
          obtain ⟨fewer, calls, turns, ended⟩ := ih later
          refine ⟨lesser :: fewer, ?_, ?_, ?_⟩
          · rw [List.map_cons, List.map_cons, calls]
          · simp only [List.map_cons, Queue.turns, same, turns]
          · rw [← same] at ended
            simpa [after, same] using ended
      | erase fails later =>
          obtain ⟨state, -, -⟩ := @perform_failed _ queue action fails
          have unmoved : (queue.call (.act action)).state = queue := state
          rw [unmoved] at later
          obtain ⟨fewer, calls, turns, ended⟩ := ih later
          refine ⟨fewer, calls, turns, ?_⟩
          rw [ended]
          simp [after, unmoved]

theorem turns_harmless {turn : Turn α} {actions : List (Action α)}
    (inside : turn ∈ queue.turns (actions.map .act)) (failed : turn.failed = true) :
    turn.Harmless := by
  induction actions generalizing queue with
  | nil => cases inside
  | cons action rest ih =>
      simp only [List.map_cons, turns, List.mem_cons] at inside
      obtain rfl | later := inside
      · obtain ⟨-, log, restores⟩ := @perform_failed _ queue action failed
        refine ⟨congrArg (List.map Entry.event) log, ?_⟩
        rintro _ _ ⟨⟩ ⟨⟩
        exact restores
      · exact ih later

end Queue

namespace Channel

variable {channel : Channel α} {queue : Queue α} {ledger : Ledger α}

/-- A run without waiting, if few elements enter the queue. -/
theorem Represents.turns_of_queue (represents : channel.Represents queue)
    (balances : ledger.Balances queue) (actions : List (Action α))
    (few : (ledger.readTurns (queue.turns (actions.map .act))).accepted.length <
      Cursor.horizon) :
    channel.turns (actions.map .act) = queue.turns (actions.map .act) ∧
      (channel.after (actions.map .act)).Represents (queue.after (actions.map .act)) := by
  induction actions generalizing channel queue ledger with
  | nil => exact ⟨rfl, represents⟩
  | cons action rest ih =>
      have booked : queue.accepted + (action.acceptedBy (queue.perform action).result
          (queue.perform action).log).length < Cursor.horizon := by
        have begun := Nat.lt_of_le_of_lt (Ledger.accepted_le_readTurns
          (ledger.readTurn ⟨_, (queue.call (.act action)).result, _, _⟩) _) few
        simpa [Ledger.readTurn, Queue.call, Ledger.read_events, Ledger.close, Ledger.book,
          balances.clear, balances.accepted_length] using begun
      have mirrors : Mirrors Represents (channel.call (.act action)) (queue.call (.act action)) :=
        ((represents.perform action (.inr booked)).mapResult _).mapLog _
      obtain ⟨later, ended⟩ := ih mirrors.state (balances.readTurn (.act action) _) few
      refine ⟨?_, ended⟩
      simp only [List.map_cons, Channel.turns, Queue.turns, mirrors.result, mirrors.log,
        mirrors.state.reports_eq, later]

/-- A run comes out the same without the turns that are missing from `kept`. -/
structure SameWithout (channel : Channel α) (actions : List (Action α))
    (kept : List (Turn α)) : Prop where
  turns : channel.turns (kept.map Turn.call) = kept
  log : kept.flatMap Turn.log = (channel.turns (actions.map .act)).flatMap Turn.log
  reports : (channel.after (kept.map Turn.call)).reports =
    (channel.after (actions.map .act)).reports

/-- What failed can be left out of a run, all of it or in part. -/
structure ForgetsFailures (channel : Channel α) (actions : List (Action α)) : Prop where
  all : channel.SameWithout actions
    ((channel.turns (actions.map .act)).filter fun turn => !turn.failed)
  any : ∀ kept, Erases Turn.failed Turn.Trims (channel.turns (actions.map .act)) kept →
    channel.SameWithout actions kept
  harmless : ∀ turn ∈ channel.turns (actions.map .act), turn.failed = true → turn.Harmless
  /-- Right after a failure, both ends report what they reported before it. -/
  unseen : ∀ before action, before ++ [action] <+: actions →
    let reached := channel.after (before.map .act)
    (reached.perform action).result.failed = true →
      (reached.perform action).state.reports = reached.reports

theorem reports_of_failed {overflow : Overflow} {requested bound : Nat}
    {created : Step α Unit} {action : Action α}
    (made : create overflow requested = .ok created)
    (size : ringSize? requested = some (bound + 1)) (calls : List (Call α))
    (few : (Ledger.ofTurns (created.state.turns (calls ++ [.act action]))).accepted.length <
      Cursor.horizon)
    (failed : ((created.state.after calls).perform action).result.failed = true) :
    ((created.state.after calls).perform action).state.reports =
      (created.state.after calls).reports := by
  obtain ⟨-, represents, -⟩ := turns_of_size made size calls (Nat.le_of_lt (few_before few))
  have turn := turns_after_create made size calls [.act action] few
  simp only [turns, Queue.turns, List.cons.injEq, Turn.mk.injEq] at turn
  obtain ⟨⟨-, result, -, reports⟩, -⟩ := turn
  have answer : ((created.state.after calls).perform action).result = _ := Reply.plain.inj result
  rw [answer] at failed
  obtain ⟨unmoved, -, -⟩ := Queue.perform_failed failed
  calc ((created.state.after calls).perform action).state.reports
    _ = (((Queue.empty overflow bound).after calls).perform action).state.reports := reports
    _ = (created.state.after calls).reports := by rw [unmoved, represents.reports_eq]

theorem forgetsFailures_of_create {overflow : Overflow} {requested : Nat}
    {created : Step α Unit} (made : create overflow requested = .ok created)
    (actions : List (Action α))
    (few : (Ledger.ofTurns (created.state.turns (actions.map .act))).accepted.length <
      Cursor.horizon) : created.state.ForgetsFailures actions := by
  obtain ⟨bound, size, holds⟩ := holds_of_create made
  obtain ⟨same, represents, balances⟩ := turns_of_size made size _ (Nat.le_of_lt few)
  have harmless : ∀ turn ∈ created.state.turns (actions.map .act), turn.failed = true →
      turn.Harmless := by
    rw [same]
    exact fun turn => Queue.turns_harmless
  have any : ∀ kept, Erases Turn.failed Turn.Trims (created.state.turns (actions.map .act)) kept →
      created.state.SameWithout actions kept := by
    intro kept erases
    have log := erases.flatMap_eq Turn.log (fun _ _ => Turn.Trims.log_eq)
      fun turn inside failed => (harmless turn inside failed).silent
    rw [same] at erases
    obtain ⟨fewer, calls, answered, ended⟩ := Queue.turns_erased erases
    -- the queue has accepted as much in the end, so the shorter run is within the bound too
    have fewAgain := (@Ledger.balances_empty α overflow bound).readTurns (fewer.map .act)
    have within : (Ledger.readTurns {} ((Queue.empty overflow bound).turns
        (fewer.map .act))).accepted.length < Cursor.horizon := by
      rwa [fewAgain.accepted_length, ended, ← balances.accepted_length]
    obtain ⟨sameAgain, representsAgain⟩ :=
      holds.represents.turns_of_queue (Ledger.balances_empty overflow bound) fewer within
    refine ⟨?_, log, ?_⟩
    · rw [calls, sameAgain, answered]
    · rw [calls, representsAgain.reports_eq, ended, represents.reports_eq]
  refine ⟨any _ (Erases.filter Turn.Trims.whole _), any, harmless, ?_⟩
  rintro before action ⟨later, rfl⟩ reached failed
  rw [List.map_append] at few
  have fewer := few_before few
  rw [List.map_append] at fewer
  exact reports_of_failed made size _ fewer failed

end Channel

end Ring

end Handoff
