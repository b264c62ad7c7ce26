import Handoff.Proofs.Ring.Patience

namespace Handoff

def Side.other : Side → Side
  | .sender => .receiver
  | .receiver => .sender

/-- What is logged by a call that waits in vain. -/
def idle (blocked : Side) (count : Nat) : List (Entry α κ ρ ω) :=
  (List.replicate count [.waiting blocked false, .resumed blocked false]).flatten

namespace Ring

/-! What a blocked call waits for says exactly that an attempt would not be in vain.  Once
it is so, only the side itself can make it otherwise; and as long as it is not, the side
itself cannot change it but by leaving.
-/

/-- The action belongs to the side.  A question is anybody's. -/
def Action.IsOf (side : Side) : Action α → Prop
  | .trySend _ | .dropSender => side = .sender
  | .tryReceive | .receiveInto _ | .dropReceiver => side = .receiver
  | .drain _ feed => side = .receiver ∧ feed = []
  | .describe | .unknown _ => True

/-- What a call comes to if it does not wait. -/
def Call.attempt : Call α → Action α
  | .act action => action
  | .send value _ => .trySend value
  | .receive _ => .tryReceive

namespace Queue

variable {queue : Queue α} {action : Action α} {side : Side}

/-! One action. -/

theorem closed_fixed : Fixed (Queue.closed : Queue α → Bool) := fun _ _ _ => rfl

theorem drop_closed (drops : action = .dropSender ∨ action = .dropReceiver) (queue : Queue α) :
    (queue.perform action).state.closed = true := by
  rcases drops with rfl | rfl
  · cases there : queue.senderAlive with
    | true =>
        simp only [perform, there, if_true]
        exact (afterDrop_fixed closed_fixed _).trans (by simp [Queue.closed])
    | false => simp [perform, there, Queue.closed]
  · cases there : queue.receiverAlive with
    | true =>
        simp only [perform, there, if_true]
        exact (afterDrop_fixed closed_fixed _).trans (by simp [Queue.closed])
    | false => simp [perform, there, Queue.closed]

theorem perform_closed (action : Action α) (closed : queue.closed = true) :
    (queue.perform action).state.closed = true := by
  have spared (spares : Spares Queue.closed action) :
      (queue.perform action).state.closed = true :=
    (perform_fixed closed_fixed queue spares).trans closed
  cases action with
  | dropSender => exact drop_closed (.inl rfl) queue
  | dropReceiver => exact drop_closed (.inr rfl) queue
  | _ => exact spared trivial

theorem perform_bound (queue : Queue α) (action : Action α) :
    (queue.perform action).state.bound = queue.bound :=
  perform_fixed (fun _ _ _ => rfl) queue (by cases action <;> simp [Spares])

theorem perform_alive (queue : Queue α) (stays : action ≠ leave side.other) :
    (queue.perform action).state.alive side = queue.alive side := by
  refine perform_fixed (alive_fixed side) queue (alive_spared ?_)
  cases side <;> cases action <;> first | rfl | exact absurd rfl stays

theorem stays_of_other (isOf : action.IsOf side.other) : action ≠ leave side.other := by
  rintro rfl
  cases side <;> cases isOf

theorem tryReceive_length_le (queue : Queue α) :
    queue.tryReceive.state.items.length ≤ queue.items.length := by
  cases items : queue.items with
  | nil => simp [tryReceive_of_nil items, items]
  | cons item rest => simp [tryReceive_of_cons items, removeOldest, items]

theorem drainFor_length_le (count : Nat) (queue : Queue α) :
    (drainFor count queue []).state.items.length ≤ queue.items.length := by
  induction count generalizing queue with
  | zero => exact Nat.le_refl _
  | succ count ih =>
      have shorter := queue.tryReceive_length_le
      cases items : queue.items with
      | nil => simp [drainFor, tryReceive_of_nil items, items]
      | cons item rest =>
          rw [← items]
          simp only [drainFor, tryReceive_of_cons items, sendNext, List.tail_nil] at shorter ⊢
          exact Nat.le_trans (ih queue.removeOldest) shorter

theorem afterDrop_length_le (queue : Queue α) :
    queue.afterDrop.state.items.length ≤ queue.items.length := by
  rw [afterDrop, freeIfAbandoned]
  split
  · exact Nat.le_refl _
  · exact Nat.zero_le _

/-- A receiver leaves no more elements than there were. -/
theorem perform_length_le (isOf : action.IsOf .receiver) :
    (queue.perform action).state.items.length ≤ queue.items.length := by
  cases action with
  | trySend value => cases isOf
  | tryReceive =>
      rw [perform]
      split
      · exact queue.tryReceive_length_le
      · exact Nat.le_refl _
  | receiveInto register =>
      rw [perform]
      split
      · rw [Outcome.mapResult_state, receiveInto_state]
        exact queue.tryReceive_length_le
      · exact Nat.le_refl _
  | drain limit feed =>
      obtain ⟨-, rfl⟩ := isOf
      rw [perform]
      split
      · exact drainFor_length_le _ queue
      · exact Nat.le_refl _
  | dropSender => cases isOf
  | dropReceiver =>
      rw [perform]
      split
      · exact afterDrop_length_le _
      · exact Nat.le_refl _
  | describe => exact Nat.le_refl _
  | unknown => exact Nat.le_refl _

theorem trySend_stocked (stocked : queue.items ≠ []) (value : α) :
    (queue.trySend value).state.items ≠ [] := by
  obtain ⟨_, tried⟩ | ⟨_, _, tried⟩ | ⟨_, _, _, _, _, _, tried⟩ | ⟨_, _, _, tried⟩ :=
    queue.trySend_cases value
  · rwa [tried]
  · simp [tried, append]
  · simp [tried, append]
  · rwa [tried]

/-- A sender that stays leaves an element where there was one. -/
theorem perform_stocked (isOf : action.IsOf .sender) (stocked : queue.items ≠ [])
    (opened : (queue.perform action).state.closed = false) :
    (queue.perform action).state.items ≠ [] := by
  cases action with
  | trySend value =>
      rw [perform]
      split
      · exact trySend_stocked stocked value
      · exact stocked
  | dropSender =>
      have closed := drop_closed (.inl rfl) queue
      rw [opened] at closed
      cases closed
  | drain limit feed => cases isOf.1
  | describe => exact stocked
  | unknown => exact stocked
  | _ => cases isOf

/-- What a side waits for lasts, whatever the other side does. -/
theorem ready_lasts (isOf : action.IsOf side.other) (ready : queue.ready side = true) :
    (queue.perform action).state.ready side = true := by
  cases closed : (queue.perform action).state.closed with
  | true => cases side <;> simp [Queue.ready, closed]
  | false =>
      have opened : queue.closed = false := by
        cases before : queue.closed with
        | false => rfl
        | true => exact (perform_closed action before).symm.trans closed
      cases side with
      | sender =>
          have shorter := @perform_length_le _ queue action isOf
          rw [Queue.ready, opened, Bool.or_false, decide_eq_true_eq] at ready
          rw [Queue.ready, closed, Bool.or_false, decide_eq_true_eq, perform_bound]
          exact Nat.lt_of_le_of_lt shorter ready
      | receiver =>
          have stocked : queue.items ≠ [] := by simpa [Queue.ready, opened] using ready
          simpa [Queue.ready, closed] using perform_stocked isOf stocked closed

theorem trySend_held (full : queue.bound ≤ queue.items.length) (value : α) :
    queue.bound ≤ (queue.trySend value).state.items.length := by
  obtain ⟨_, tried⟩ | ⟨_, room, tried⟩ | ⟨_, _, _, _, _, items, tried⟩ | ⟨_, _, _, tried⟩ :=
    queue.trySend_cases value
  · rwa [tried]
  · omega
  · rw [items] at full
    simpa [tried, append, removeOldest, items] using full
  · rwa [tried]

/-- What a side waits for does not come from the side itself, unless it leaves. -/
theorem held_lasts (isOf : action.IsOf side) (stays : action ≠ leave side.other)
    (held : queue.ready side = false) : (queue.perform action).state.ready side = false := by
  have unmoved (same : (queue.perform action).state = queue) :
      (queue.perform action).state.ready side = false := by rw [same, held]
  cases side with
  | sender =>
      cases action with
      | trySend value =>
          simp only [Queue.ready, Bool.or_eq_false_iff, decide_eq_false_iff_not,
            Nat.not_lt] at held ⊢
          obtain ⟨full, opened⟩ := held
          rw [perform]
          split
          · rw [Outcome.mapResult_state, trySend_fixed closed_fixed,
              trySend_fixed (fun _ _ _ => rfl : Fixed Queue.bound)]
            exact ⟨trySend_held full value, opened⟩
          · exact ⟨full, opened⟩
      | dropSender => exact absurd rfl stays
      | drain limit feed => cases isOf.1
      | describe => exact unmoved rfl
      | unknown => exact unmoved rfl
      | _ => cases isOf
  | receiver =>
      have items : queue.items = [] := by
        simp only [Queue.ready, Bool.or_eq_false_iff, Bool.not_eq_false', List.isEmpty_iff] at held
        exact held.1
      cases action with
      | tryReceive =>
          apply unmoved
          rw [perform]
          split <;> simp [tryReceive_of_nil items]
      | receiveInto register =>
          apply unmoved
          rw [perform]
          split <;> simp [receiveInto_state, tryReceive_of_nil items]
      | drain limit feed =>
          apply unmoved
          rw [perform]
          split <;> simp [drain, drainFor_of_nil _ items]
      | dropReceiver => exact absurd rfl stays
      | describe => exact unmoved rfl
      | unknown => exact unmoved rfl
      | _ => cases isOf

/-! A whole run. -/

/-- A call that has not waited has done what it attempts at once. -/
theorem call_of_quiet {call : Call α} (quiet : waits (queue.call call).log = 0) :
    (queue.call call).state = (queue.perform call.attempt).state := by
  cases call with
  | act action => rfl
  | send value script =>
      simp only [Queue.call, Call.attempt, perform] at quiet ⊢
      split
      · next alive =>
          rw [if_pos alive, Outcome.mapResult_log] at quiet
          rw [Outcome.mapResult_state, Outcome.mapResult_state]
          cases tried : (queue.trySend value).result with
          | ok => rw [send_of_accepted tried]
          | error error =>
              cases error with
              | closed returned => rw [send_of_closed tried, (trySend_rejected tried).2]
              | full returned =>
                  cases script with
                  | nil =>
                      rw [send_of_full_nil tried, Outcome.mapResult_log, waits_await] at quiet
                      cases quiet
                  | cons group rest =>
                      rw [send_of_full_cons tried, Outcome.andThen_log, waits_append,
                        waits_await] at quiet
                      omega
      · rfl
  | receive script =>
      simp only [Queue.call, Call.attempt, perform] at quiet ⊢
      split
      · next alive =>
          rw [if_pos alive, Outcome.mapResult_log] at quiet
          rw [Outcome.mapResult_state, Outcome.mapResult_state]
          cases items : queue.items with
          | cons item rest => rw [receive_of_cons items, tryReceive_of_cons items]
          | nil =>
              cases sender : queue.senderAlive with
              | false => rw [receive_of_closed items sender, tryReceive_of_nil items]
              | true =>
                  cases script with
                  | nil =>
                      rw [receive_of_empty_nil items sender, Outcome.mapResult_log,
                        waits_await] at quiet
                      cases quiet
                  | cons group rest =>
                      rw [receive_of_empty_cons items sender, Outcome.andThen_log, waits_append,
                        waits_await] at quiet
                      omega
      · rfl

/-- What each of some actions keeps is kept by calls that come to such actions. -/
theorem after_kept (keeps : Queue α → Prop) (allowed : Action α → Prop)
    (step : ∀ queue action, allowed action → keeps queue → keeps (queue.perform action).state)
    (further : List (Call α)) (each : ∀ call ∈ further, allowed call.attempt)
    (quiet : ∀ turn ∈ queue.turns further, waits turn.log = 0) (holds : keeps queue) :
    keeps (queue.after further) := by
  induction further generalizing queue with
  | nil => exact holds
  | cons call rest ih =>
      obtain ⟨first, others⟩ := List.forall_mem_cons.mp each
      simp only [Queue.turns, List.forall_mem_cons] at quiet
      obtain ⟨now, later⟩ := quiet
      have next : keeps (queue.call call).state := by
        rw [call_of_quiet now]
        exact step queue call.attempt first holds
      exact ih others later next

/-! Whether an attempt would be in vain. -/

theorem ready_eq_lets (alive : queue.alive side = true)
    (waits : side = .sender → queue.overflow = .wait) : queue.ready side = queue.lets side := by
  cases side with
  | sender =>
      have there : queue.senderAlive = true := alive
      simp [Queue.ready, lets, closed, there, waits rfl, Overflow.overwrites]
  | receiver =>
      have there : queue.receiverAlive = true := alive
      simp [Queue.ready, lets, closed, there]

theorem tryReceive_empty_iff (queue : Queue α) :
    queue.tryReceive.result = .error .empty ↔ queue.lets .receiver = false := by
  cases items : queue.items with
  | cons item rest => simp [tryReceive_of_cons items, lets, items]
  | nil => cases sender : queue.senderAlive <;> simp [tryReceive_of_nil items, lets, items, sender]

end Queue

namespace Channel

variable {channel : Channel α} {queue : Queue α} {side : Side}

def alive (channel : Channel α) : Side → Bool
  | .sender => channel.senderAlive
  | .receiver => channel.receiverAlive

/-- However often the call waits, as long as nobody else acts it is back where it was. -/
def Stalls (channel : Channel α) (blocked : Side)
    (call : Channel α → List (List (Action α)) → Blocking α ρ) : Prop :=
  ∀ count script, ∃ stalled : Channel α, stalled.Agrees channel ∧
    call channel (List.replicate count [] ++ script) =
      (⟨(), stalled, idle blocked count⟩ : Blocking α Unit).andThen
        fun _ stalled => call stalled script

/-- A sender that does not overwrite waits for what an attempt needs. -/
structure SendReadiness (channel : Channel α) : Prop where
  exact : ∀ value, channel.sendReady = true ↔
    ∀ returned, (channel.trySend value).result ≠ .error (.full returned)
  goes : channel.sendReady = true → ∀ value script,
    channel.send value script = channel.sendLast value
  stalls : channel.sendReady = false → ∀ value,
    channel.Stalls .sender fun channel script => channel.send value script

/-- A receiver waits for what an attempt needs. -/
structure ReceiveReadiness (channel : Channel α) : Prop where
  exact : channel.receiveReady = true ↔ channel.tryReceive.result ≠ .error .empty
  goes : channel.receiveReady = true → ∀ script, channel.receive script = channel.receiveLast
  stalls : channel.receiveReady = false →
    channel.Stalls .receiver fun channel script => channel.receive script

/-- What a side waits for comes from the other side, and is not taken back by it.  The
calls to come are those of one side that do not have to wait for anybody. -/
structure ReadinessLasts (channel : Channel α) (side : Side) (few : List (Call α) → Prop) :
    Prop where
  stays : channel.ready side = true → ∀ further, few further →
    (∀ call ∈ further, call.attempt.IsOf side.other) →
    (∀ turn ∈ channel.turns further, waits turn.log = 0) →
    (channel.after further).ready side = true
  held : channel.ready side = false → ∀ further, few further →
    (∀ call ∈ further, call.attempt.IsOf side ∧ call.attempt ≠ leave side.other) →
    (∀ turn ∈ channel.turns further, waits turn.log = 0) →
    (channel.after further).ready side = false

theorem stalls_of_step {blocked : Side}
    {call : Channel α → List (List (Action α)) → Blocking α ρ}
    (step : ∀ channel : Channel α, channel.Holds queue → ∃ stalled : Channel α,
      stalled.Holds queue ∧ ∀ script, call channel ([] :: script) =
        (⟨(), stalled, idle blocked 1⟩ : Blocking α Unit).andThen
          fun _ stalled => call stalled script)
    (holds : channel.Holds queue) : channel.Stalls blocked call := by
  intro count script
  suffices general : ∃ stalled : Channel α, stalled.Holds queue ∧
      call channel (List.replicate count [] ++ script) =
        (⟨(), stalled, idle blocked count⟩ : Blocking α Unit).andThen
          fun _ stalled => call stalled script by
    obtain ⟨stalled, same, called⟩ := general
    exact ⟨stalled, same.agrees holds, called⟩
  induction count generalizing channel with
  | zero => exact ⟨channel, holds, rfl⟩
  | succ count ih =>
      obtain ⟨looked, same, called⟩ := step channel holds
      obtain ⟨stalled, later, rest⟩ := ih same
      refine ⟨stalled, later, ?_⟩
      rw [List.replicate_succ, List.cons_append, called]
      simp only [Outcome.andThen, rest, idle, List.replicate_succ, List.replicate_zero,
        List.flatten_cons, List.flatten_nil, List.append_nil, List.append_assoc]

theorem Holds.await_nil (holds : channel.Holds queue) {blocked : Side}
    (held : queue.ready blocked = false) :
    channel.await blocked [] = ⟨(), channel, idle blocked 1⟩ := by
  have unready := (holds.ready_eq blocked).trans held
  simp [await, Channel.performGroup, unready, idle]

theorem Holds.sendReadiness (holds : channel.Holds queue) (alive : queue.alive .sender = true)
    (waits : queue.overflow = .wait) (few : queue.accepted < Cursor.horizon) :
    channel.SendReadiness := by
  have lets : channel.sendReady = queue.lets .sender :=
    (holds.ready_eq .sender).trans (Queue.ready_eq_lets alive fun _ => waits)
  have tried (value : α) := holds.trySend alive value fun _ => few
  have roomy := holds.mask.roomy
  refine ⟨fun value => ⟨?_, ?_⟩, ?_, ?_⟩
  · intro ready returned
    rw [(tried value).result]
    exact Queue.trySend_of_let roomy (lets.symm.trans ready) value returned
  · intro accepted
    cases ready : channel.sendReady with
    | true => rfl
    | false =>
        have full := Queue.trySend_of_held (lets.symm.trans ready) value
        exact absurd ((tried value).result.trans full) (accepted value)
  · intro ready value script
    have notFull := Queue.trySend_of_let roomy (lets.symm.trans ready) value
    rw [← (tried value).result] at notFull
    cases result : (channel.trySend value).result with
    | ok =>
        rw [send_of_accepted result]
        simp [sendLast, asEntries, Outcome.mapResult, Outcome.mapLog, result]
    | error error =>
        cases error with
        | closed returned =>
            rw [send_of_closed result]
            simp [sendLast, asEntries, Outcome.mapResult, Outcome.mapLog, result,
              TrySendError.value]
        | full returned => exact absurd result (notFull returned)
  · intro unready value
    have held := lets.symm.trans unready
    refine stalls_of_step (fun channel holds => ?_) holds
    have full := Queue.trySend_of_held held value
    have refused := holds.trySend alive value fun _ => few
    have same := (Queue.trySend_rejected full).2
    rw [same] at refused
    refine ⟨(channel.trySend value).state, refused.state, fun script => ?_⟩
    rw [send_of_full_cons refused.result refused.log, refused.state.await_nil]
    rw [Queue.ready_eq_lets alive fun _ => waits, held]

theorem Holds.receiveReadiness (holds : channel.Holds queue)
    (alive : queue.alive .receiver = true) : channel.ReceiveReadiness := by
  have lets : channel.receiveReady = queue.lets .receiver :=
    (holds.ready_eq .receiver).trans (Queue.ready_eq_lets alive (by simp))
  refine ⟨?_, ?_, ?_⟩
  · rw [lets, (holds.tryReceive alive).result, ne_eq, Queue.tryReceive_empty_iff]
    simp
  · intro ready script
    cases items : queue.items with
    | cons item rest =>
        obtain ⟨result, -, -⟩ := holds.takeOldest_of_cons items
        rw [receive_of_taken result]
        simp [receiveLast, asEntries, Outcome.mapResult, Outcome.mapLog, result]
    | nil =>
        have absent := holds.takeOldest_of_nil alive items
        have gone : queue.senderAlive = false := by
          simpa [Queue.lets, items] using lets.symm.trans ready
        rw [gone, if_neg Bool.false_ne_true] at absent
        rw [receive_of_closed absent]
        simp [receiveLast, asEntries, Outcome.mapResult, Outcome.mapLog, absent]
  · intro unready
    have held := lets.symm.trans unready
    obtain ⟨items, sender⟩ := Queue.empty_of_held held
    refine stalls_of_step (fun channel holds => ⟨channel, holds, fun script => ?_⟩) holds
    have absent := holds.takeOldest_of_nil alive items
    rw [sender, if_pos rfl] at absent
    rw [receive_of_empty_cons absent, holds.await_nil]
    rw [Queue.ready_eq_lets alive (by simp), held]

/-- Some calls after others, of which few are accepted in all. -/
theorem represents_further {overflow : Overflow} {requested bound : Nat} {created : Step α Unit}
    (made : create overflow requested = .ok created)
    (size : ringSize? requested = some (bound + 1)) (calls further : List (Call α))
    (few : (Ledger.ofTurns (created.state.turns (calls ++ further))).accepted.length <
      Cursor.horizon) :
    ((created.state.after calls).after further).Represents
      (((Queue.empty overflow bound).after calls).after further) := by
  obtain ⟨-, represents, -⟩ := turns_of_size made size (calls ++ further) (Nat.le_of_lt few)
  rw [after_append, Queue.after, List.foldl_append] at represents
  exact represents

theorem readiness_lasts {overflow : Overflow} {requested : Nat} {created : Step α Unit}
    (made : create overflow requested = .ok created) (calls : List (Call α))
    (few : (Ledger.ofTurns (created.state.turns calls)).accepted.length < Cursor.horizon)
    (alive : (created.state.after calls).alive side = true) :
    (created.state.after calls).ReadinessLasts side fun further =>
      (Ledger.ofTurns (created.state.turns (calls ++ further))).accepted.length <
        Cursor.horizon := by
  obtain ⟨bound, size, -, -, represents, -⟩ := turns_of_create made calls (Nat.le_of_lt few)
  have there : ((Queue.empty overflow bound).after calls).alive side = true := by
    cases side with
    | sender => exact represents.senderAlive.symm.trans alive
    | receiver => exact represents.receiverAlive.symm.trans alive
  have before := (represents.holds_of_alive there).ready_eq side
  refine ⟨?_, ?_⟩
  · intro ready further fewer each quiet
    rw [turns_after_create made size calls further fewer] at quiet
    have later := represents_further made size calls further fewer
    have kept := Queue.after_kept
      (fun queue => queue.alive side = true ∧ queue.ready side = true)
      (fun action => action.IsOf side.other)
      (fun queue action isOf kept =>
        ⟨(queue.perform_alive (Queue.stays_of_other isOf)).trans kept.1,
          Queue.ready_lasts isOf kept.2⟩)
      further each quiet ⟨there, before.symm.trans ready⟩
    rw [(later.holds_of_alive kept.1).ready_eq, kept.2]
  · intro held further fewer each quiet
    rw [turns_after_create made size calls further fewer] at quiet
    have later := represents_further made size calls further fewer
    have kept := Queue.after_kept
      (fun queue => queue.alive side = true ∧ queue.ready side = false)
      (fun action => action.IsOf side ∧ action ≠ leave side.other)
      (fun queue action own kept =>
        ⟨(queue.perform_alive own.2).trans kept.1, Queue.held_lasts own.1 own.2 kept.2⟩)
      further each quiet ⟨there, before.symm.trans held⟩
    rw [(later.holds_of_alive kept.1).ready_eq, kept.2]

end Channel

end Ring

end Handoff
