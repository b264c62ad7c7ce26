import Handoff.Proofs.Ring.Refinement

namespace Handoff.Ring

/-! Every accepted element leaves a channel once, and in the order in which it was
sent: it is received, or overwritten, or freed when the second end is dropped.
-/

/-- What is logged when the second end is dropped. -/
def lastDropLog (unread : List α) : List (Event α) :=
  [.notified .receiver, .notified .sender] ++ (unread.map .destroyed ++
    if unread.isEmpty then [] else [.noted (.ringFreed unread.length)])

namespace Queue

variable {queue : Queue α} {call : Call α}

theorem call_of_absent (gone : queue.present = false) (call : Call α) :
    (queue.call call).state = queue ∧ (queue.call call).log = [] := by
  simp only [present, Bool.or_eq_false_iff] at gone
  cases call with
  | act action => cases action <;> simp [Queue.call, perform, gone]
  | send value script => simp [Queue.call, gone]
  | receive script => simp [Queue.call, gone]

theorem turns_of_absent (gone : queue.present = false) (calls : List (Call α)) :
    ∀ turn ∈ queue.turns calls, turn.log = [] := by
  induction calls with
  | nil => simp [turns]
  | cons call rest ih =>
      obtain ⟨state, log⟩ := call_of_absent gone call
      simp only [turns, state, log, List.mem_cons]
      rintro turn (rfl | member)
      · rfl
      · exact ih turn member

/-- Only dropping the second end leaves nobody behind. -/
theorem call_leaves (there : queue.present = true)
    (left : (queue.call call).state.present = false) :
    ∃ drop, call = .act drop ∧
      (drop = .dropSender ∧ queue.senderAlive = true ∧ queue.receiverAlive = false ∨
        drop = .dropReceiver ∧ queue.receiverAlive = true ∧ queue.senderAlive = false) := by
  have kept {side : Side} (alive : queue.alive side = true)
      (still : (queue.call call).state.alive side = queue.alive side) : False := by
    have present := present_of_alive (still.trans alive)
    rw [left] at present
    cases present
  have moved (same : (queue.call call).state = queue) : False := by
    rw [same, there] at left
    cases left
  cases call with
  | act action =>
      have spared (spares : Spares present action) : False := by
        have still := (perform_fixed present_fixed queue spares).trans there
        rw [Queue.call, Outcome.mapLog_state, Outcome.mapResult_state, still] at left
        cases left
      cases action with
      | dropSender =>
          refine ⟨.dropSender, rfl, .inl ⟨rfl, ?_⟩⟩
          cases alive : queue.senderAlive with
          | false => exact (moved (by simp [Queue.call, perform, alive])).elim
          | true =>
              have ended := afterDrop_fixed present_fixed { queue with senderAlive := false }
              simp only [Queue.call, perform, alive, Outcome.mapLog_state,
                Outcome.mapResult_state, if_true, dropSender, ended] at left
              exact ⟨rfl, left⟩
      | dropReceiver =>
          refine ⟨.dropReceiver, rfl, .inr ⟨rfl, ?_⟩⟩
          cases alive : queue.receiverAlive with
          | false => exact (moved (by simp [Queue.call, perform, alive])).elim
          | true =>
              have ended := afterDrop_fixed present_fixed { queue with receiverAlive := false }
              simp only [Queue.call, perform, alive, Outcome.mapLog_state,
                Outcome.mapResult_state, if_true, dropReceiver, ended] at left
              exact ⟨rfl, by simpa [present] using left⟩
      | _ => exact (spared trivial).elim
  | send value script =>
      cases alive : queue.senderAlive with
      | false => exact (moved (by simp [Queue.call, alive])).elim
      | true =>
          have still := send_fixed (alive_fixed .sender) (fun _ => alive_spared) queue value script
          exact (@kept .sender alive (by simpa [Queue.call, alive] using still)).elim
  | receive script =>
      cases alive : queue.receiverAlive with
      | false => exact (moved (by simp [Queue.call, alive])).elim
      | true =>
          have still := receive_fixed (alive_fixed .receiver) (fun _ => alive_spared) queue script
          exact (@kept .receiver alive (by simpa [Queue.call, alive] using still)).elim

theorem exists_last_drop (there : queue.present = true) (calls : List (Call α))
    (left : (queue.after calls).present = false) :
    ∃ before call rest, calls = before ++ call :: rest ∧ (queue.after before).present = true ∧
      ((queue.after before).call call).state.present = false := by
  induction calls generalizing queue with
  | nil =>
      have still : queue.present = false := left
      rw [there] at still
      cases still
  | cons call rest ih =>
      cases next : (queue.call call).state.present with
      | false => exact ⟨[], call, rest, rfl, there, next⟩
      | true =>
          obtain ⟨before, last, later, rfl, still, ended⟩ := ih next left
          exact ⟨call :: before, last, later, rfl, still, ended⟩

theorem call_last_drop {drop : Action α}
    (second : drop = .dropSender ∧ queue.senderAlive = true ∧ queue.receiverAlive = false ∨
      drop = .dropReceiver ∧ queue.receiverAlive = true ∧ queue.senderAlive = false) :
    ∃ abandoned : Queue α, abandoned.present = false ∧ abandoned.items = queue.items ∧
      queue.call (.act drop) =
        { result := .plain .done
          state := abandoned.afterDrop.state
          log := abandoned.afterDrop.log.map .event } := by
  obtain ⟨rfl, there, gone⟩ | ⟨rfl, there, gone⟩ := second
  · refine ⟨{ queue with senderAlive := false }, by simp [present, gone], rfl, ?_⟩
    simp [Queue.call, perform, there, dropSender, Outcome.mapResult, Outcome.mapLog]
  · refine ⟨{ queue with receiverAlive := false }, by simp [present, gone], rfl, ?_⟩
    simp [Queue.call, perform, there, dropReceiver, Outcome.mapResult, Outcome.mapLog]

end Queue

namespace Ledger

variable {ledger : Ledger α} {queue : Queue α}

theorem readTurns_of_absent (clear : ledger.pending = []) (gone : queue.present = false)
    (calls : List (Call α)) : ledger.readTurns (queue.turns calls) = ledger := by
  induction calls with
  | nil => rfl
  | cons call rest ih =>
      obtain ⟨state, log⟩ := Queue.call_of_absent gone call
      have nothing (reports : EndReports) :
          ledger.readTurn ⟨call, (queue.call call).result, [], reports⟩ = ledger := by
        obtain ⟨accepted, exits, notices, returned, pending⟩ := ledger
        obtain rfl : pending = [] := clear
        simp only [Queue.present, Bool.or_eq_false_iff] at gone
        cases call with
        | act action =>
            cases action <;>
              simp [readTurn, Queue.call, Queue.perform, gone, close, book, Action.acceptedBy,
                Action.exitsBy, Action.returnedBy, exitsIn, noticesIn, receiverNotices]
        | send value script => simp [readTurn, Queue.call, gone, close, settle, exitsIn, noticesIn]
        | receive script => simp [readTurn, Queue.call, gone, close, settle, exitsIn, noticesIn]
      simp only [Queue.turns, state, log]
      rw [readTurns, List.foldl_cons, nothing]
      exact ih

theorem readTurn_last_drop (clear : ledger.pending = []) {drop : Action α}
    (drops : drop = .dropSender ∨ drop = .dropReceiver) (gone : queue.present = false)
    (reports : EndReports) :
    ledger.readTurn ⟨.act drop, .plain .done, queue.afterDrop.log.map .event, reports⟩ =
      { ledger with
        exits := ledger.exits ++ queue.items.map .freed
        notices := ledger.notices ++
          if queue.items.isEmpty then [] else [.ringFreed queue.items.length] } := by
  have booked : drop.acceptedBy (.done : Answer α) queue.afterDrop.log = [] ∧
      drop.returnedBy (.done : Answer α) = [] := by
    rcases drops with rfl | rfl <;> exact ⟨rfl, rfl⟩
  simp [readTurn, read_events, close, book, clear, booked, Action.exitsBy,
    Queue.exitsIn_afterDrop gone, Queue.noticesIn_afterDrop gone]

/-- The elements that are still there are those that were accepted and have not left. -/
theorem Balances.unread_eq (balances : ledger.Balances queue) :
    ledger.accepted.drop ledger.exits.length = queue.items := by
  rw [balances.conserved]
  exact List.drop_left' (by simp)

theorem Balances.last_drop (balances : ledger.Balances queue) {drop : Action α}
    (second : drop = .dropSender ∧ queue.senderAlive = true ∧ queue.receiverAlive = false ∨
      drop = .dropReceiver ∧ queue.receiverAlive = true ∧ queue.senderAlive = false)
    (rest : List (Call α)) :
    (queue.call (.act drop)).log = (lastDropLog queue.items).map .event ∧
      (∀ turn ∈ (queue.call (.act drop)).state.turns rest, turn.log = []) ∧
      ledger.readTurns (queue.turns (.act drop :: rest)) =
        { ledger with
          exits := ledger.exits ++ queue.items.map .freed
          notices := ledger.notices ++
            if queue.items.isEmpty then [] else [.ringFreed queue.items.length] } := by
  have drops : drop = .dropSender ∨ drop = .dropReceiver := second.imp And.left And.left
  obtain ⟨abandoned, absent, items, called⟩ := Queue.call_last_drop second
  have nobody : abandoned.afterDrop.state.present = false := by
    rw [Queue.afterDrop_of_absent absent]
    exact absent
  rw [called, ← items]
  refine ⟨by rw [Queue.afterDrop_of_absent absent]; rfl, Queue.turns_of_absent nobody rest, ?_⟩
  rw [Queue.turns, called, Ledger.readTurns, List.foldl_cons,
    readTurn_last_drop balances.clear drops absent]
  apply readTurns_of_absent
  · exact balances.clear
  · exact nobody

end Ledger

namespace Channel

/-- Conservation of elements.  A run that ends with both ends dropped has a last drop.
Before it, elements leave in the order in which they were accepted, by being received
or overwritten; an overwritten element is reported under its own number, and nothing
else is reported.  The last drop notifies both sides, frees what was left, oldest
first, and reports how much that was unless it was nothing.  After it nothing happens.
Values that were not accepted came back to those who sent them. -/
theorem elements_leave_once {overflow : Overflow} {requested : Nat} {created : Step α Unit}
    (made : create overflow requested = .ok created) (calls : List (Call α))
    (few : (Ledger.ofTurns (created.state.turns calls)).accepted.length < Cursor.horizon)
    (senderGone : (created.state.after calls).senderAlive = false)
    (receiverGone : (created.state.after calls).receiverAlive = false) :
    (Ledger.ofTurns (created.state.turns calls)).exits.map Exit.value =
        (Ledger.ofTurns (created.state.turns calls)).accepted ∧
      ∃ before drop rest, calls = before ++ .act drop :: rest ∧
        let channel := created.state.after before
        let books := Ledger.ofTurns (created.state.turns before)
        let unread := books.accepted.drop books.exits.length
        (drop = .dropSender ∧ channel.senderAlive = true ∧ channel.receiverAlive = false ∨
          drop = .dropReceiver ∧ channel.receiverAlive = true ∧ channel.senderAlive = false) ∧
        (∀ exit ∈ books.exits, exit.isFreed = false) ∧
        (∀ position value cursor,
          books.exits[position]? = some (Exit.overwritten value cursor) → cursor = position) ∧
        books.notices = books.exits.filterMap Exit.notice? ∧
        (∀ pair ∈ books.returned, pair.1 = pair.2) ∧
        (channel.call (.act drop)).log = (lastDropLog unread).map .event ∧
        (∀ turn ∈ (channel.call (.act drop)).state.turns rest, turn.log = []) ∧
        Ledger.ofTurns (created.state.turns calls) =
          { books with
            exits := books.exits ++ unread.map .freed
            notices := books.notices ++
              if unread.isEmpty then [] else [.ringFreed unread.length] } := by
  obtain ⟨bound, size, -, same, ended, -⟩ := turns_of_create made calls (Nat.le_of_lt few)
  have left : ((Queue.empty overflow bound).after calls).present = false := by
    rw [Queue.present, ← ended.senderAlive, ← ended.receiverAlive, senderGone, receiverGone]
    rfl
  obtain ⟨before, call, rest, rfl, there, gone⟩ := Queue.exists_last_drop rfl calls left
  obtain ⟨drop, rfl, second⟩ := Queue.call_leaves there gone
  -- up to the last drop the channel is still the queue
  rw [turns_append, Ledger.ofTurns_append] at few
  have fewBefore := Nat.le_trans (Ledger.accepted_le_readTurns _ _) (Nat.le_of_lt few)
  obtain ⟨sameBound, size', -, sameBefore, represents, balances⟩ :=
    turns_of_create made before fewBefore
  obtain rfl : sameBound = bound := by
    rw [size'] at size
    simpa using size
  generalize within : (Queue.empty overflow sameBound).after before = queue at *
  -- the turn of the last drop, and those after it
  rw [turns_append, Queue.turns_append, sameBefore, within] at same
  have cut := List.append_cancel_left same
  simp only [turns, Queue.turns, List.cons.injEq, Turn.mk.injEq] at cut
  obtain ⟨⟨-, -, sameLog, -⟩, later⟩ := cut
  obtain ⟨log, quiet, whole⟩ := balances.last_drop second rest
  have unread := balances.unread_eq
  have books : Ledger.ofTurns (created.state.turns (before ++ .act drop :: rest)) =
      (Ledger.ofTurns (created.state.turns before)).readTurns
        (queue.turns (.act drop :: rest)) := by
    rw [turns_append, Ledger.ofTurns_append, List.append_cancel_left same]
  rw [books, whole]
  refine ⟨?_, before, drop, rest, rfl, ?_, balances.unfreed there, balances.numbered,
    balances.told there, balances.returned, ?_, ?_, ?_⟩
  · simp [balances.conserved, Exit.value, Function.comp_def]
  · rw [represents.senderAlive, represents.receiverAlive]
    exact second
  · rw [sameLog, log, unread]
  · rw [later]
    exact quiet
  · rw [unread]

/-- The first element is received, the second one overwritten and the third one freed;
the fourth value comes too late. -/
theorem three_elements_leave :
    let calls : List (Call Nat) :=
      [.act (.trySend 1), .act .tryReceive, .act (.trySend 2), .act (.trySend 3),
        .act .dropReceiver, .act (.trySend 4), .act .dropSender]
    (Ledger.ofTurns ((ofSize .overwrite 2).turns calls)).exits.map Exit.value = [1, 2, 3] := by
  intro calls
  obtain ⟨conserved, -⟩ := @elements_leave_once Nat .overwrite 2
    ⟨(), ofSize .overwrite 2, [.noted (.ringCreated 2 2 true)]⟩ rfl calls (by decide) rfl rfl
  rw [conserved]
  rfl

end Channel

end Handoff.Ring
