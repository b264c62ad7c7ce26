import Handoff.Proofs.Ring.Readiness
import Handoff.Proofs.Ring.Lossless

namespace Handoff

/-- Whom a log says to have been notified. -/
def toldIn (log : List (Entry α κ ρ ω)) : List Side :=
  log.filterMap fun
    | .event (.notified side) => some side
    | _ => none

/-- The same of the events alone. -/
def notifiedIn (log : List (Event α)) : List Side :=
  log.filterMap fun
    | .notified side => some side
    | _ => none

theorem toldIn_append (first second : List (Entry α κ ρ ω)) :
    toldIn (first ++ second) = toldIn first ++ toldIn second :=
  List.filterMap_append

theorem toldIn_events (log : List (Event α)) :
    toldIn (log.map .event : List (Entry α κ ρ ω)) = notifiedIn log := by
  rw [toldIn, List.filterMap_map, notifiedIn]
  congr
  funext event
  cases event <;> rfl

theorem notifiedIn_append (first second : List (Event α)) :
    notifiedIn (first ++ second) = notifiedIn first ++ notifiedIn second :=
  List.filterMap_append

namespace Ring

/-! Who is notified, and when.  Every element that is sent is told to the receiver, every
one that is taken to the sender, and that an end is dropped to both.  This is enough for a
blocked side to hear of everything it waits for.
-/

/-- Of elements taken one after the other, and of one sent after each as long as there are
some to send. -/
def drainTells : Nat → Nat → List Side
  | 0, _ => []
  | taken + 1, 0 => .sender :: drainTells taken 0
  | taken + 1, sent + 1 => .sender :: .receiver :: drainTells taken sent

/-- Whom an action has to tell, by its answer.  What a drain has sent in between is what it
leaves and has taken more than there was. -/
def Action.tells : Action α → Answer α → List Side
  | .trySend _, .done => [.receiver]
  | .tryReceive, .received _ => [.sender]
  | .receiveInto _, .register .success _ => [.sender]
  | .drain .., .drained result =>
      drainTells result.items.length
        (result.hintAfter + result.items.length - result.hintBefore)
  | .dropSender, .done | .dropReceiver, .done => [.receiver, .sender]
  | _, _ => []

/-- Whom the actions of the peer had to tell. -/
def actedTells (log : List (ChannelEntry α)) : List Side :=
  log.flatMap fun
    | .acted action answer _ => action.tells answer
    | _ => []

/-- Whom a call has to tell in the end, besides what its peer did on the way. -/
def Call.tells : Call α → Reply α → List Side
  | .act action, .plain answer => action.tells answer
  | .send value _, .sent (.ok ()) => (Action.trySend value).tells .done
  | .receive _, .received (.ok value) => Action.tryReceive.tells (.received value)
  | _, _ => []

theorem actedTells_append (first second : List (ChannelEntry α)) :
    actedTells (first ++ second) = actedTells first ++ actedTells second :=
  List.flatMap_append

theorem actedTells_events (log : List (Event α)) : actedTells (log.map .event) = [] := by
  simp [actedTells, List.flatMap_map]

namespace Queue

variable {queue middle after : Queue α} {action : Action α} {side : Side} {value item : α}
  {rest : List α}

/-! One action. -/

theorem trySend_tells (queue : Queue α) (value : α) :
    notifiedIn (queue.trySend value).log =
      match (queue.trySend value).result with
      | .ok () => [.receiver]
      | .error _ => [] := by
  obtain ⟨_, tried⟩ | ⟨_, _, tried⟩ | ⟨_, _, _, _, _, _, tried⟩ | ⟨_, _, _, tried⟩ :=
    queue.trySend_cases value
  all_goals rw [tried]; rfl

theorem tryReceive_tells (queue : Queue α) :
    notifiedIn queue.tryReceive.log =
      match queue.tryReceive.result with
      | .ok _ => [.sender]
      | .error _ => [] := by
  cases items : queue.items with
  | nil => rw [tryReceive_of_nil items]; rfl
  | cons item rest => rw [tryReceive_of_cons items]; rfl

theorem receiveInto_tells (queue : Queue α) (register : α) :
    notifiedIn (queue.receiveInto register).log =
      (Action.receiveInto register).tells
        (.register (queue.receiveInto register).result.1 (queue.receiveInto register).result.2) := by
  cases items : queue.items with
  | nil =>
      rw [receiveInto_of_nil items]
      cases queue.senderAlive <;> rfl
  | cons item rest =>
      rw [receiveInto_of_cons items]
      rfl

theorem drainFor_tells (count : Nat) (alive : queue.receiverAlive = true)
    (fits : queue.items.length ≤ queue.bound) (feed : List α) :
    let drained := drainFor count queue feed
    ∃ sent, notifiedIn drained.log = drainTells drained.result.length sent ∧
      drained.state.items.length + drained.result.length = queue.items.length + sent ∧
      (queue.senderAlive = false ∨ feed = [] → sent = 0) := by
  induction count generalizing queue feed with
  | zero => exact ⟨0, rfl, rfl, fun _ => rfl⟩
  | succ count ih =>
      cases items : queue.items with
      | nil =>
          rw [drainFor_of_nil _ items]
          exact ⟨0, rfl, by simp [items], fun _ => rfl⟩
      | cons item rest =>
          have room := removeOldest_room items fits
          have shorter : queue.removeOldest.items.length = rest.length := by
            simp [removeOldest, items]
          obtain ⟨fed, quiet⟩ | ⟨value, others, rfl, fed⟩ :=
            queue.removeOldest.sendNext_of_room alive room feed
          · rw [drainFor_of_cons count items fed]
            obtain ⟨sent, told, counted, unsent⟩ :=
              @ih queue.removeOldest alive (Nat.le_of_lt room) feed.tail
            obtain rfl : sent = 0 := unsent (quiet.imp id fun nothing => by rw [nothing]; rfl)
            refine ⟨0, ?_, ?_, fun _ => rfl⟩
            · exact congrArg (Side.sender :: ·) told
            · simp only [List.length_cons]
              omega
          · have present : queue.senderAlive = true := by
              cases sender : queue.senderAlive with
              | true => rfl
              | false =>
                  have nothing :=
                    @sendNext_of_sender_gone _ queue.removeOldest sender (value :: others)
                  have logs := congrArg Outcome.log (nothing.symm.trans fed)
                  cases logs
            rw [drainFor_of_cons count items fed]
            obtain ⟨sent, told, counted, -⟩ :=
              @ih (queue.removeOldest.append value) alive
                (by simpa [append, Nat.succ_le_iff] using room) others
            refine ⟨sent + 1, ?_, ?_, ?_⟩
            · exact congrArg (Side.sender :: Side.receiver :: ·) told
            · have longer : (queue.removeOldest.append value).items.length = rest.length + 1 := by
                simp [append, shorter]
              simp only [List.tail_cons, List.length_cons]
              omega
            · rintro (gone | none)
              · rw [present] at gone
                cases gone
              · cases none

theorem afterDrop_tells (queue : Queue α) :
    notifiedIn queue.afterDrop.log = [.receiver, .sender] := by
  rw [afterDrop, freeIfAbandoned]
  split
  · rfl
  · cases queue.items <;> simp [notifiedIn, List.filterMap_map]

theorem perform_tells (fits : queue.items.length ≤ queue.bound) (action : Action α) :
    notifiedIn (queue.perform action).log = action.tells (queue.perform action).result := by
  cases action with
  | trySend value =>
      rw [perform]
      split
      · rw [Outcome.mapResult_log, Outcome.mapResult_result, trySend_tells]
        cases (queue.trySend value).result <;> rfl
      · rfl
  | tryReceive =>
      rw [perform]
      split
      · rw [Outcome.mapResult_log, Outcome.mapResult_result, tryReceive_tells]
        cases queue.tryReceive.result <;> rfl
      · rfl
  | receiveInto register =>
      rw [perform]
      split
      · exact receiveInto_tells queue register
      · rfl
  | drain limit feed =>
      rw [perform]
      split
      · next alive =>
          obtain ⟨sent, told, counted, -⟩ := drainFor_tells
            (min (limit.getD (queue.items.length + feed.length))
              (queue.items.length + feed.length)) alive fits feed
          simp only [Outcome.mapResult_log, Outcome.mapResult_result, drain, Action.tells]
          rw [told, counted, Nat.add_sub_cancel_left]
      · rfl
  | dropSender =>
      rw [perform]
      split
      · exact afterDrop_tells _
      · rfl
  | dropReceiver =>
      rw [perform]
      split
      · exact afterDrop_tells _
      · rfl
  | describe => rfl
  | unknown => rfl

/-! Whoever takes something tells the sender. -/

theorem tryReceive_moves (moved : queue.tryReceive.state ≠ queue) :
    queue.items ≠ [] ∧ .sender ∈ notifiedIn queue.tryReceive.log := by
  cases items : queue.items with
  | nil =>
      rw [tryReceive_of_nil items] at moved
      exact absurd rfl moved
  | cons item rest =>
      rw [tryReceive_of_cons items]
      exact ⟨List.cons_ne_nil item rest, List.mem_singleton.mpr rfl⟩

theorem receiveInto_moves {register : α} (moved : (queue.receiveInto register).state ≠ queue) :
    queue.items ≠ [] ∧ .sender ∈ notifiedIn (queue.receiveInto register).log := by
  cases items : queue.items with
  | nil =>
      rw [receiveInto_of_nil items] at moved
      exact absurd rfl moved
  | cons item rest =>
      rw [receiveInto_of_cons items]
      exact ⟨List.cons_ne_nil item rest, List.mem_singleton.mpr rfl⟩

theorem drainFor_moves {count : Nat} {feed : List α}
    (moved : (drainFor count queue feed).state ≠ queue) :
    queue.items ≠ [] ∧ .sender ∈ notifiedIn (drainFor count queue feed).log := by
  cases count with
  | zero => exact absurd rfl moved
  | succ count =>
      cases items : queue.items with
      | nil =>
          rw [drainFor_of_nil _ items] at moved
          exact absurd rfl moved
      | cons item rest =>
          refine ⟨List.cons_ne_nil item rest, ?_⟩
          simp only [drainFor, tryReceive_of_cons items, List.append_assoc]
          exact List.mem_cons_self

/-- Of a change that a side waits for it is told. -/
theorem perform_enables (action : Action α) (held : queue.ready side = false)
    (ready : (queue.perform action).state.ready side = true) :
    side ∈ notifiedIn (queue.perform action).log := by
  have moved : (queue.perform action).state ≠ queue := by
    intro same
    rw [same, held] at ready
    cases ready
  have heard (taken : queue.items ≠ [] ∧ .sender ∈ notifiedIn (queue.perform action).log) :
      side ∈ notifiedIn (queue.perform action).log := by
    cases side with
    | sender => exact taken.2
    | receiver =>
        rw [Queue.ready, Bool.or_eq_false_iff, Bool.not_eq_false', List.isEmpty_iff] at held
        exact absurd held.1 taken.1
  rw [perform.eq_def] at moved heard ⊢
  cases action with
  | trySend value =>
      dsimp only at moved ⊢
      split at moved
      · next alive =>
          rw [if_pos alive, Outcome.mapResult_log, trySend_tells]
          cases tried : (queue.trySend value).result with
          | error error =>
              rw [Outcome.mapResult_state, (trySend_rejected tried).2] at moved
              exact absurd rfl moved
          | ok =>
              cases side with
              | receiver => exact List.mem_singleton.mpr rfl
              | sender =>
                  have stays : Action.trySend value ≠ leave Side.sender.other := by
                    simp [leave, Side.other]
                  have still := @held_lasts _ queue (.trySend value) .sender rfl stays held
                  rw [still] at ready
                  cases ready
      · exact absurd rfl moved
  | tryReceive =>
      dsimp only at moved heard ⊢
      split at moved
      · next alive =>
          rw [if_pos alive] at heard ⊢
          exact heard (tryReceive_moves moved)
      · exact absurd rfl moved
  | receiveInto register =>
      dsimp only at moved heard ⊢
      split at moved
      · next alive =>
          rw [if_pos alive] at heard ⊢
          exact heard (receiveInto_moves moved)
      · exact absurd rfl moved
  | drain limit feed =>
      dsimp only at moved heard ⊢
      split at moved
      · next alive =>
          rw [if_pos alive] at heard ⊢
          exact heard (drainFor_moves moved)
      · exact absurd rfl moved
  | dropSender =>
      dsimp only at moved ⊢
      split at moved
      · next alive =>
          rw [if_pos alive, Outcome.mapResult_log, dropSender, afterDrop_tells]
          cases side <;> decide
      · exact absurd rfl moved
  | dropReceiver =>
      dsimp only at moved ⊢
      split at moved
      · next alive =>
          rw [if_pos alive, Outcome.mapResult_log, dropReceiver, afterDrop_tells]
          cases side <;> decide
      · exact absurd rfl moved
  | describe => exact absurd rfl moved
  | unknown => exact absurd rfl moved

/-! With waiting. -/

/-- Who is told on the way from one queue to another, and that it is enough. -/
structure Tells (queue : Queue α) (log : List (ChannelEntry α)) (told : List Side)
    (after : Queue α) : Prop where
  exact : toldIn log = told
  enables : ∀ side, queue.ready side = false → after.ready side = true → side ∈ told

variable {ledger : Ledger α} {log later : List (ChannelEntry α)} {told next : List Side}
  {blocked : Side}

theorem tells_nothing (queue : Queue α) : queue.Tells [] [] queue where
  exact := rfl
  enables side held ready := by
    rw [held] at ready
    cases ready

theorem Tells.trans (tells : queue.Tells log told middle) (then_ : middle.Tells later next after) :
    queue.Tells (log ++ later) (told ++ next) after where
  exact := by rw [toldIn_append, tells.exact, then_.exact]
  enables side held ready := by
    rw [List.mem_append]
    cases between : middle.ready side with
    | true => exact .inl (tells.enables side held between)
    | false => exact .inr (then_.enables side between ready)

theorem events_tell {events : List (Event α)} (same : notifiedIn events = told)
    (enables : ∀ side, queue.ready side = false → after.ready side = true → side ∈ told) :
    queue.Tells (events.map .event) told after :=
  ⟨(toldIn_events events).trans same, enables⟩

theorem performAsPeer_tells (balances : ledger.Balances queue) (blocked : Side)
    (action : Action α) :
    queue.Tells (queue.performAsPeer blocked action).log
      (actedTells (queue.performAsPeer blocked action).log)
      (queue.performAsPeer blocked action).state := by
  rw [performAsPeer, actedTells_append, actedTells_events, List.nil_append]
  split
  · have same := perform_tells balances.fits action
    have tells := events_tell same fun side held ready =>
      same ▸ perform_enables action held ready
    have silent : (queue.perform action).state.Tells
        [.acted action (queue.perform action).result (queue.perform action).state.reports] []
        (queue.perform action).state := ⟨rfl, (tells_nothing _).enables⟩
    simpa [actedTells] using tells.trans silent
  · have silent : actedTells [.acted action .refused queue.reports] = [] := by
      cases action <;> rfl
    rw [silent]
    exact ⟨rfl, (tells_nothing queue).enables⟩

theorem performGroup_tells (balances : ledger.Balances queue) (blocked : Side)
    (group : List (Action α)) :
    queue.Tells (queue.performGroup blocked group).log
      (actedTells (queue.performGroup blocked group).log)
      (queue.performGroup blocked group).state := by
  induction group generalizing ledger queue with
  | nil => exact tells_nothing queue
  | cons action rest ih =>
      rw [performGroup, Outcome.andThen_log, Outcome.andThen_state, actedTells_append]
      exact (performAsPeer_tells balances blocked action).trans
        (ih (balances.performAsPeer blocked action))

theorem await_tells (balances : ledger.Balances queue) (blocked : Side)
    (group : List (Action α)) :
    queue.Tells (queue.await blocked group).log (actedTells (queue.await blocked group).log)
      (queue.await blocked group).state := by
  have acted := performGroup_tells balances blocked group
  rw [await]
  refine ⟨?_, ?_⟩
  · simpa [toldIn, actedTells] using acted.exact
  · simpa [actedTells] using acted.enables

theorem trySend_enables (alive : queue.senderAlive = true) (held : queue.ready side = false)
    (ready : (queue.trySend value).state.ready side = true) :
    side ∈ notifiedIn (queue.trySend value).log := by
  have enables := @perform_enables _ queue side (.trySend value) held
  rw [perform, if_pos alive] at enables
  exact enables ready

theorem tryReceive_enables (alive : queue.receiverAlive = true)
    (held : queue.ready side = false) (ready : queue.tryReceive.state.ready side = true) :
    side ∈ notifiedIn queue.tryReceive.log := by
  have enables := @perform_enables _ queue side .tryReceive held
  rw [perform, if_pos alive] at enables
  exact enables ready

/-- The first attempt of a blocking send settles it, or there is no room. -/
theorem send_tells_or_full (alive : queue.senderAlive = true) (value : α)
    (script shown : List (List (Action α))) :
    queue.Tells (queue.send value script).log
        (actedTells (queue.send value script).log ++
          Call.tells (.send value shown) (.sent (queue.send value script).result))
        (queue.send value script).state ∨
      (queue.trySend value).result = .error (.full value) := by
  have same := queue.trySend_tells value
  cases tried : (queue.trySend value).result with
  | ok =>
      rw [tried] at same
      left
      rw [send_of_accepted tried, actedTells_events]
      refine events_tell same fun side held ready => ?_
      have told := trySend_enables alive held ready
      rwa [same] at told
  | error error =>
      obtain ⟨returned, -⟩ := trySend_rejected tried
      cases error with
      | closed other =>
          left
          rw [send_of_closed tried]
          exact tells_nothing queue
      | full other => exact .inr (by rw [← returned]; rfl)

theorem send_tells (balances : ledger.Balances queue) (alive : queue.senderAlive = true)
    (value : α) (script shown : List (List (Action α))) :
    queue.Tells (queue.send value script).log
      (actedTells (queue.send value script).log ++
        Call.tells (.send value shown) (.sent (queue.send value script).result))
      (queue.send value script).state := by
  induction script generalizing ledger queue with
  | nil =>
      obtain settled | full := send_tells_or_full alive value [] shown
      · exact settled
      · rw [send_of_full_nil full]
        simpa [Call.tells] using await_tells balances .sender [.dropReceiver]
  | cons group rest ih =>
      obtain settled | full := send_tells_or_full alive value (group :: rest) shown
      · exact settled
      · have still := (queue.await_alive .sender group).trans alive
        rw [send_of_full_cons full, Outcome.andThen_log, Outcome.andThen_result,
          Outcome.andThen_state, actedTells_append, List.append_assoc]
        exact (await_tells balances .sender group).trans (ih (balances.await .sender group) still)

theorem receive_tells_or_empty (alive : queue.receiverAlive = true)
    (script shown : List (List (Action α))) :
    queue.Tells (queue.receive script).log
        (actedTells (queue.receive script).log ++
          Call.tells (.receive shown) (.received (queue.receive script).result))
        (queue.receive script).state ∨
      queue.items = [] ∧ queue.senderAlive = true := by
  cases items : queue.items with
  | cons item rest =>
      have enables {side : Side} := @tryReceive_enables _ queue side alive
      rw [tryReceive_of_cons items] at enables
      left
      rw [receive_of_cons items]
      exact ⟨rfl, fun side held ready => enables held ready⟩
  | nil =>
      cases sender : queue.senderAlive with
      | true => exact .inr ⟨rfl, rfl⟩
      | false =>
          left
          rw [receive_of_closed items sender]
          exact tells_nothing queue

theorem receive_tells (balances : ledger.Balances queue) (alive : queue.receiverAlive = true)
    (script shown : List (List (Action α))) :
    queue.Tells (queue.receive script).log
      (actedTells (queue.receive script).log ++
        Call.tells (.receive shown) (.received (queue.receive script).result))
      (queue.receive script).state := by
  induction script generalizing ledger queue with
  | nil =>
      obtain settled | ⟨items, sender⟩ := receive_tells_or_empty alive [] shown
      · exact settled
      · rw [receive_of_empty_nil items sender]
        simpa [Call.tells] using await_tells balances .receiver [.dropSender]
  | cons group rest ih =>
      obtain settled | ⟨items, sender⟩ := receive_tells_or_empty alive (group :: rest) shown
      · exact settled
      · have still := (queue.await_alive .receiver group).trans alive
        rw [receive_of_empty_cons items sender, Outcome.andThen_log, Outcome.andThen_result,
          Outcome.andThen_state, actedTells_append, List.append_assoc]
        exact (await_tells balances .receiver group).trans
          (ih (balances.await .receiver group) still)

theorem call_tells (balances : ledger.Balances queue) (call : Call α) :
    queue.Tells (queue.call call).log
      (actedTells (queue.call call).log ++ call.tells (queue.call call).result)
      (queue.call call).state := by
  cases call with
  | act action =>
      have same := perform_tells balances.fits action
      have tells := events_tell same fun side held ready =>
        same ▸ perform_enables action held ready
      simpa [Queue.call, actedTells_events, Call.tells] using tells
  | send value script =>
      rw [Queue.call]
      split
      · next alive => exact send_tells balances alive value script script
      · exact tells_nothing queue
  | receive script =>
      rw [Queue.call]
      split
      · next alive => exact receive_tells balances alive script script
      · exact tells_nothing queue

theorem turns_tell (balances : ledger.Balances queue) (calls : List (Call α)) :
    ∀ turn ∈ queue.turns calls,
      toldIn turn.log = actedTells turn.log ++ turn.call.tells turn.reply := by
  induction calls generalizing ledger queue with
  | nil => simp [turns]
  | cons call rest ih =>
      simp only [turns, List.forall_mem_cons]
      have next := balances.readTurn call (queue.call call).state.reports
      exact ⟨(call_tells balances call).exact, ih next⟩

theorem ready_of_closed (closed : queue.closed = true) (side : Side) :
    queue.ready side = true := by
  cases side <;> simp [Queue.ready, closed]

end Queue

namespace Channel

variable {overflow : Overflow} {requested : Nat} {created : Step α Unit}

/-- A run tells whom its actions have to tell, and nobody else. -/
theorem turns_tell (made : create overflow requested = .ok created) (calls : List (Call α))
    (few : (Ledger.ofTurns (created.state.turns calls)).accepted.length < Cursor.horizon) :
    ∀ turn ∈ created.state.turns calls,
      toldIn turn.log = actedTells turn.log ++ turn.call.tells turn.reply := by
  obtain ⟨bound, -, -, same, -, -⟩ := turns_of_create made calls (Nat.le_of_lt few)
  rw [same]
  exact Queue.turns_tell (@Ledger.balances_empty α overflow bound) calls

/-- A call after which a side can go on, and could not before, has told the side. -/
theorem call_enables (made : create overflow requested = .ok created) (calls : List (Call α))
    (call : Call α)
    (few : (Ledger.ofTurns (created.state.turns (calls ++ [call]))).accepted.length <
      Cursor.horizon) (side : Side)
    (held : (created.state.after calls).ready side = false)
    (ready : ((created.state.after calls).call call).state.ready side = true) :
    side ∈ toldIn ((created.state.after calls).call call).log := by
  obtain ⟨bound, -, -, -, represents, balances⟩ :=
    turns_of_create made calls (Nat.le_of_lt (few_before few))
  rw [turns_append, Ledger.ofTurns_append] at few
  have mirrors := represents.call balances call (Nat.le_of_lt few)
  have tells := Queue.call_tells balances call
  cases there : ((Queue.empty overflow bound).after calls).present with
  | false =>
      simp only [Queue.present, ← represents.senderAlive, ← represents.receiverAlive,
        Bool.or_eq_false_iff] at there
      obtain ⟨reply, absent⟩ := call_of_absent call
      rw [absent _ there.1 there.2, held] at ready
      cases ready
  | true =>
      rw [(represents.holds there).ready_eq] at held
      cases left : (((Queue.empty overflow bound).after calls).call call).state.present with
      | true =>
          rw [(mirrors.state.holds left).ready_eq] at ready
          rw [mirrors.log, tells.exact]
          exact tells.enables side held ready
      | false =>
          -- an end was gone before, so nobody was held up
          obtain ⟨drop, -, ⟨-, -, gone⟩ | ⟨-, -, gone⟩⟩ := Queue.call_leaves there left
          · rw [Queue.ready_of_closed (by simp [Queue.closed, gone])] at held
            cases held
          · rw [Queue.ready_of_closed (by simp [Queue.closed, gone])] at held
            cases held

end Channel

namespace Interleaving

variable {run : Interleaving α} {bound : Nat}

/-! Access by access. -/

def ready (run : Interleaving α) : Side → Bool
  | .sender => run.memory.sendReady
  | .receiver => run.memory.receiveReady

/-- The side is in no call, or waits between two attempts of one. -/
def Rests (run : Interleaving α) : Side → Prop
  | .sender => ∃ last, run.sending = .idle last
  | .receiver => ∃ last, run.receiving = .idle last

theorem Coherent.ready_sender (coherent : run.Coherent bound) :
    run.ready .sender = (decide (run.accepted.size < run.departed + bound) ||
      run.memory.closed) := by
  have near := coherent.near_departed
  have departed_le := coherent.departed_le
  have room : (!run.memory.isFull) = decide (run.accepted.size < run.departed + bound) := by
    rw [Memory.isFull, coherent.length_eq, Memory.capacity, coherent.mask.toNat_eq,
      Bool.eq_iff_iff]
    simp
    omega
  rw [ready, Memory.sendReady, room]

theorem Coherent.ready_receiver (coherent : run.Coherent bound) :
    run.ready .receiver = (decide (run.departed < run.accepted.size) || run.memory.closed) := by
  have departed_le := coherent.departed_le
  have newest := coherent.newest
  have position := coherent.position_toNat
  have drained_iff : run.memory.sendCursor = run.memory.receiveCursor.position ↔
      run.accepted.size = run.departed :=
    ⟨fun same => by rw [← newest, same, position],
      fun same => Cursor.ext_toNat (by rw [newest, position, same])⟩
  have stocked : (!run.memory.isDrained) = decide (run.departed < run.accepted.size) := by
    rw [Memory.isDrained, Bool.eq_iff_iff]
    simp only [Bool.not_eq_true', beq_eq_false_iff_ne, ne_eq, drained_iff, decide_eq_true_eq]
    omega
  rw [ready, Memory.receiveReady, stocked]

/-- What a move does to the things that a blocked side waits for. -/
inductive Changes (before after : Interleaving α) : Prop where
  | nothing (accepted : after.accepted = before.accepted)
      (departed : after.departed = before.departed)
      (closed : after.memory.closed = before.memory.closed)
  | overtakes (value : α) (cursor oldest : Cursor)
      (stage : before.sending = .overtake value cursor oldest)
      (accepted : after.accepted = before.accepted) (departed : before.departed ≤ after.departed)
      (closed : after.memory.closed = before.memory.closed)
  | sends (log : after.log = before.log.push (.notified .receiver))
      (accepted : before.accepted.size ≤ after.accepted.size)
      (departed : after.departed = before.departed)
      (closed : after.memory.closed = before.memory.closed)
  | receives (log : after.log = before.log.push (.notified .sender))
      (accepted : after.accepted = before.accepted) (departed : before.departed ≤ after.departed)
      (closed : after.memory.closed = before.memory.closed)
  | shuts (log : after.log = before.log ++ #[.notified .receiver, .notified .sender])

theorem closed_of_exchange {memory next : Memory α} {expected desired : Cursor}
    (exchanged : memory.exchangeReceive? expected desired = some next) :
    next.closed = memory.closed := by
  rw [Memory.exchangeReceive?] at exchanged
  split at exchanged
  · cases exchanged
    rfl
  · cases exchanged

theorem changes_stepSender (run : Interleaving α) : run.Changes run.stepSender := by
  cases stage : run.sending with
  | overtake value cursor oldest =>
      simp only [stepSender, stage]
      split
      · next exchanged =>
          refine .overtakes value cursor oldest stage rfl ?_ (closed_of_exchange exchanged)
          simp [departed]
      · exact .nothing rfl rfl rfl
  | publish value cursor =>
      simp only [stepSender, stage]
      exact .sends rfl (by simp) rfl rfl
  | _ =>
      simp only [stepSender, stage]
      repeat' split
      all_goals exact .nothing rfl rfl rfl

theorem changes_stepReceiver (run : Interleaving α) : run.Changes run.stepReceiver := by
  have looks (looked : Interleaving α) (oldest : Cursor) (accepted : looked.accepted = run.accepted)
      (departed : looked.departed = run.departed) (memory : looked.memory = run.memory) :
      run.Changes (looked.approach oldest) := by
    unfold approach
    split <;> exact .nothing accepted departed (congrArg Memory.closed memory)
  cases stage : run.receiving with
  | claim oldest =>
      simp only [stepReceiver, stage]
      split
      · next exchanged => exact .nothing rfl rfl (closed_of_exchange exchanged)
      · exact .nothing rfl rfl rfl
  | release oldest value =>
      simp only [stepReceiver, stage]
      exact .receives rfl rfl (by simp [departed]) rfl
  | take oldest =>
      simp only [stepReceiver, stage]
      split <;> exact .nothing rfl rfl rfl
  | _ =>
      simp only [stepReceiver, stage]
      repeat' split
      all_goals first | exact .nothing rfl rfl rfl | exact looks _ _ rfl rfl rfl

theorem changes_move (run : Interleaving α) (next : Move α) : run.Changes (run.move next) := by
  cases next with
  | stepSender => exact run.changes_stepSender
  | stepReceiver => exact run.changes_stepReceiver
  | startSend value =>
      simp only [move, startSend]
      split <;> exact .nothing rfl rfl rfl
  | startReceive =>
      simp only [move, startReceive]
      split <;> exact .nothing rfl rfl rfl
  | dropSender =>
      simp only [move, dropSender]
      split
      · exact .shuts rfl
      · exact .nothing rfl rfl rfl
  | dropReceiver =>
      simp only [move, dropReceiver]
      split
      · exact .shuts rfl
      · exact .nothing rfl rfl rfl

/-- The move has told the side at its end, after it touched the memory. -/
def Tells (before after : Interleaving α) (side : Side) : Prop :=
  ∃ events : List (Event α), after.log.toList = before.log.toList ++ events ∧
    .notified side ∈ events

/-- A move after which a resting side can go on, and could not before, has told the side. -/
theorem Coherent.move_enables (coherent : run.Coherent bound) (next : Move α)
    (few : (run.move next).accepted.size ≤ Cursor.horizon) {side : Side} (rests : run.Rests side)
    (held : run.ready side = false) (ready : (run.move next).ready side = true) :
    run.Tells (run.move next) side := by
  have later := coherent.move next few
  have changes := run.changes_move next
  cases side with
  | sender =>
      rw [coherent.ready_sender, Bool.or_eq_false_iff, decide_eq_false_iff_not] at held
      rw [later.ready_sender, Bool.or_eq_true, decide_eq_true_eq] at ready
      obtain ⟨full, opened⟩ := held
      cases changes with
      | nothing accepted departed closed =>
          rw [accepted, departed, closed, opened] at ready
          simp [full] at ready
      | overtakes value cursor oldest stage =>
          obtain ⟨last, idle⟩ := rests
          rw [idle] at stage
          cases stage
      | sends log accepted departed closed =>
          rw [departed, closed, opened] at ready
          simp only [Bool.false_eq_true, or_false] at ready
          omega
      | receives log => exact ⟨[.notified .sender], by rw [log]; simp, by simp⟩
      | shuts log => exact ⟨[.notified .receiver, .notified .sender], by rw [log]; simp, by simp⟩
  | receiver =>
      rw [coherent.ready_receiver, Bool.or_eq_false_iff, decide_eq_false_iff_not] at held
      rw [later.ready_receiver, Bool.or_eq_true, decide_eq_true_eq] at ready
      obtain ⟨drained, opened⟩ := held
      have unmoved (accepted : (run.move next).accepted = run.accepted)
          (departed : run.departed ≤ (run.move next).departed)
          (closed : (run.move next).memory.closed = run.memory.closed) : False := by
        rw [accepted, closed, opened] at ready
        simp only [Bool.false_eq_true, or_false] at ready
        omega
      cases changes with
      | nothing accepted departed closed =>
          exact (unmoved accepted (Nat.le_of_eq departed.symm) closed).elim
      | overtakes value cursor oldest stage accepted departed closed =>
          exact (unmoved accepted departed closed).elim
      | sends log => exact ⟨[.notified .receiver], by rw [log]; simp, by simp⟩
      | receives log accepted departed closed => exact (unmoved accepted departed closed).elim
      | shuts log => exact ⟨[.notified .receiver, .notified .sender], by rw [log]; simp, by simp⟩

end Interleaving

namespace Channel

/-- In some calls on a channel, both sides hear of what they wait for and of nothing
else. -/
structure Notifies (created : Channel α) (calls : List (Call α)) : Prop where
  exact : ∀ turn ∈ created.turns calls,
    toldIn turn.log = actedTells turn.log ++ turn.call.tells turn.reply
  enables : ∀ before call rest, calls = before ++ call :: rest → ∀ side,
    (created.after before).ready side = false →
    ((created.after before).call call).state.ready side = true →
    side ∈ toldIn ((created.after before).call call).log

/-- In some moves of two threads, a side that rests is told as soon as it can go on. -/
def MovesTell (created : Channel α) (moves : List (Move α)) : Prop :=
  ∀ before next rest, moves = before ++ next :: rest → ∀ side,
    let run := (Interleaving.ofChannel created).follow before
    run.Rests side → run.ready side = false → (run.move next).ready side = true →
    run.Tells (run.move next) side

variable {overflow : Overflow} {requested : Nat} {created : Step α Unit}

theorem notifies (made : create overflow requested = .ok created) (calls : List (Call α))
    (few : (Ledger.ofTurns (created.state.turns calls)).accepted.length < Cursor.horizon) :
    created.state.Notifies calls where
  exact := turns_tell made calls few
  enables := by
    rintro before call rest rfl side held ready
    rw [List.append_cons] at few
    exact call_enables made before call (few_before few) side held ready

theorem moves_tell (made : create overflow requested = .ok created) (moves : List (Move α))
    (few : ((Interleaving.ofChannel created.state).follow moves).accepted.size <
      Cursor.horizon) : created.state.MovesTell moves := by
  rintro before next rest rfl side run rests held ready
  obtain ⟨bound, -, holds⟩ := holds_of_create made
  rw [Interleaving.follow_append] at few
  have moved := Nat.lt_of_le_of_lt (Interleaving.accepted_le_follow (run.move next) rest) few
  have early := Nat.le_trans (run.sizes_le_move next).1 (Nat.le_of_lt moved)
  have reached := holds.coherent.follow before early
  exact reached.move_enables next (Nat.le_of_lt moved) rests held ready

end Channel

end Ring

end Handoff
