import Handoff.Proofs.Ring.Alone
import Handoff.Proofs.Ring.Simulation

namespace Handoff.Ring

/-! A channel is a bounded queue: every run of calls gets from it what it would get
from the queue.  How many values were accepted is read off the run itself.
-/

namespace Channel

variable {channel : Channel α} {queue : Queue α} {ledger : Ledger α}

/-! An action. -/

theorem Represents.described_eq (represents : channel.Represents queue) (side : Side)
    (name : String) :
    (if queue.alive side then some (channel.describe name) else none) =
      if queue.alive side then some (queue.describe name) else none := by
  split
  · next alive => rw [(represents.holds_of_alive alive).describe_eq]
  · rfl

/-- That few elements are sent may be known of the channel or of the queue. -/
theorem Represents.perform (represents : channel.Represents queue) (action : Action α)
    (few : queue.accepted +
          (action.acceptedBy (channel.perform action).result
            (channel.perform action).log).length ≤ Cursor.horizon ∨
        queue.accepted +
          (action.acceptedBy (queue.perform action).result (queue.perform action).log).length <
            Cursor.horizon) :
    Mirrors Represents (channel.perform action) (queue.perform action) := by
  cases action with
  | trySend value =>
      simp only [Channel.perform, ifSender, represents.senderAlive, Queue.perform] at few ⊢
      split
      · next alive =>
          have holds := represents.holds (by simp [Queue.present, alive])
          have mirrors := holds.trySend alive value fun accepted => by
            obtain few | few := few
            · exact Nat.lt_of_succ_le (by simpa [alive, accepted, Action.acceptedBy] using few)
            · exact Nat.lt_of_le_of_lt (Nat.le_add_right _ _) few
          exact (mirrors.mapResult _).weaken Holds.represents
      · exact .idle represents
  | tryReceive =>
      simp only [Channel.perform, ifReceiver, represents.receiverAlive, Queue.perform]
      split
      · next alive =>
          have holds := represents.holds (by simp [Queue.present, alive])
          exact ((holds.tryReceive alive).mapResult _).weaken Holds.represents
      · exact .idle represents
  | receiveInto register =>
      simp only [Channel.perform, ifReceiver, represents.receiverAlive, Queue.perform]
      split
      · next alive =>
          have holds := represents.holds (by simp [Queue.present, alive])
          exact ((holds.receiveInto alive register).mapResult _).weaken Holds.represents
      · exact .idle represents
  | drain limit feed =>
      simp only [Channel.perform, ifReceiver, represents.receiverAlive, Queue.perform] at few ⊢
      split
      · next alive =>
          have holds := represents.holds (by simp [Queue.present, alive])
          have mirrors := holds.drain alive limit feed
            (by simpa [alive, Action.acceptedBy] using few)
          exact (mirrors.mapResult _).weaken Holds.represents
      · exact .idle represents
  | dropSender =>
      simp only [Channel.perform, ifSender, represents.senderAlive, Queue.perform]
      split
      · next alive =>
          have holds := represents.holds (by simp [Queue.present, alive])
          exact holds.dropSender.mapResult _
      · exact .idle represents
  | dropReceiver =>
      simp only [Channel.perform, ifReceiver, represents.receiverAlive, Queue.perform]
      split
      · next alive =>
          have holds := represents.holds (by simp [Queue.present, alive])
          exact holds.dropReceiver.mapResult _
      · exact .idle represents
  | describe =>
      refine ⟨?_, rfl, represents⟩
      have sender := represents.described_eq .sender "Sender"
      have receiver := represents.described_eq .receiver "Receiver"
      simp only [Channel.perform, Queue.perform, represents.senderAlive, represents.receiverAlive]
      exact congrArg₂ Answer.described sender receiver
  | unknown => exact .idle represents

/-! What the peer does to a blocked call. -/

theorem permits_eq (blocked : Side) (action : Action α) :
    permits blocked action = Queue.permits blocked action := by
  cases blocked <;> cases action <;> rfl

theorem Represents.performAsPeer (represents : channel.Represents queue)
    (balances : ledger.Balances queue) (blocked : Side) (action : Action α)
    (few : (ledger.read (channel.performAsPeer blocked action).log).accepted.length ≤
        Cursor.horizon ∨
      (ledger.read (queue.performAsPeer blocked action).log).accepted.length < Cursor.horizon) :
    Mirrors Represents (channel.performAsPeer blocked action)
      (queue.performAsPeer blocked action) := by
  have mirrors : Mirrors Represents
      (if permits blocked action then channel.perform action else ⟨.refused, channel, []⟩)
      (if Queue.permits blocked action then queue.perform action
        else ⟨.refused, queue, []⟩) := by
    rw [permits_eq]
    split
    · next permitted =>
        refine represents.perform action ?_
        rw [Channel.performAsPeer, Queue.performAsPeer, permits_eq, if_pos permitted,
          if_pos permitted, Ledger.read_acted balances.clear, Ledger.read_acted balances.clear,
          Ledger.book, Ledger.book, List.length_append, List.length_append,
          balances.accepted_length] at few
        exact few
    · exact .idle represents
  refine ⟨rfl, ?_, mirrors.state⟩
  rw [Channel.performAsPeer, Queue.performAsPeer, mirrors.log, mirrors.result,
    mirrors.state.reports_eq]

theorem Represents.performGroup (represents : channel.Represents queue)
    (balances : ledger.Balances queue) (blocked : Side) (group : List (Action α))
    (few : (ledger.read (channel.performGroup blocked group).log).accepted.length ≤
        Cursor.horizon ∨
      (ledger.read (queue.performGroup blocked group).log).accepted.length < Cursor.horizon) :
    Mirrors Represents (channel.performGroup blocked group)
      (queue.performGroup blocked group) := by
  induction group generalizing channel queue ledger with
  | nil => exact .idle represents
  | cons action rest ih =>
      rw [Channel.performGroup, Queue.performGroup, Outcome.andThen_log, Outcome.andThen_log,
        Ledger.read_append, Ledger.read_append] at few
      have head := represents.performAsPeer balances blocked action
        (few.imp (Nat.le_trans (Ledger.accepted_le_read _ _))
          (Nat.lt_of_le_of_lt (Ledger.accepted_le_read _ _)))
      rw [head.log] at few
      exact head.andThen (ih head.state (balances.performAsPeer blocked action) few)

theorem Represents.await (represents : channel.Represents queue)
    (balances : ledger.Balances queue) {blocked : Side} (alive : queue.alive blocked = true)
    (group : List (Action α))
    (few : (ledger.read (channel.await blocked group).log).accepted.length ≤ Cursor.horizon ∨
      (ledger.read (queue.await blocked group).log).accepted.length < Cursor.horizon) :
    Mirrors Represents (channel.await blocked group) (queue.await blocked group) := by
  have mirrors := represents.performGroup balances blocked group
    (by simpa [Channel.await, Queue.await, Ledger.enter] using few)
  have before := (represents.holds_of_alive alive).ready_eq blocked
  have later := (mirrors.state.holds_of_alive
    ((queue.await_alive blocked group).trans alive)).ready_eq blocked
  refine ⟨mirrors.result, ?_, mirrors.state⟩
  rw [Channel.await, Queue.await, mirrors.log, before, later]

/-! A blocking send. -/

variable {value returned item : α} {group : List (Action α)} {script : List (List (Action α))}

theorem send_of_accepted (tried : (channel.trySend value).result = .ok ()) :
    channel.send value script =
      ⟨.ok (), (channel.trySend value).state, (channel.trySend value).log.map .event⟩ := by
  unfold send
  cases script <;> simp [asEntries, tried, Outcome.mapLog]

theorem send_of_closed (tried : (channel.trySend value).result = .error (.closed returned)) :
    channel.send value script =
      { result := .error ⟨returned⟩
        state := (channel.trySend value).state
        log := (channel.trySend value).log.map .event } := by
  unfold send
  cases script <;> simp [asEntries, tried, Outcome.mapLog]

theorem send_of_full_nil (tried : (channel.trySend value).result = .error (.full returned))
    (quiet : (channel.trySend value).log = []) :
    channel.send value [] =
      ((channel.trySend value).state.await .sender [.dropReceiver]).andThen fun _ channel =>
        channel.sendLast returned := by
  unfold send
  simp [asEntries, tried, quiet, Outcome.andThen, Outcome.mapLog]

theorem send_of_full_cons (tried : (channel.trySend value).result = .error (.full returned))
    (quiet : (channel.trySend value).log = []) :
    channel.send value (group :: script) =
      ((channel.trySend value).state.await .sender group).andThen fun _ channel =>
        channel.send returned script := by
  conv => lhs; unfold send
  simp [asEntries, tried, quiet, Outcome.andThen, Outcome.mapLog]

theorem sendLast_of_closed (closed : channel.closed = true) (value : α) :
    channel.sendLast value = ⟨.error ⟨value⟩, channel, []⟩ := by
  simp [sendLast, asEntries, trySend, closed, Outcome.mapResult, Outcome.mapLog,
    TrySendError.value]

/-- The first attempt of a blocking send decides it, or there is no room. -/
theorem Represents.send_or_full (represents : channel.Represents queue)
    (balances : ledger.Balances queue) (alive : queue.alive .sender = true)
    (shown : List (List (Action α)))
    (few : ((ledger.read (channel.send value script).log).close (.send value shown)
      (.sent (channel.send value script).result)).accepted.length ≤ Cursor.horizon) :
    Mirrors Represents (channel.send value script) (queue.send value script) ∨
      (queue.trySend value).result = .error (.full value) ∧
        (channel.trySend value).result = .error (.full value) ∧
        (channel.trySend value).log = [] ∧
        (channel.trySend value).state.Represents queue := by
  have mirrors : Mirrors Holds (channel.trySend value) (queue.trySend value) := by
    refine (represents.holds_of_alive alive).trySend alive value fun accepted => ?_
    rw [send_of_accepted accepted, Ledger.read_events] at few
    simp only [Ledger.close, Ledger.book, Action.acceptedBy, List.length_append,
      balances.accepted_length, List.length_singleton] at few
    exact few
  cases tried : (queue.trySend value).result with
  | ok =>
      rw [send_of_accepted (mirrors.result.trans tried), Queue.send_of_accepted tried]
      exact .inl ⟨rfl, congrArg _ mirrors.log, mirrors.state.represents⟩
  | error error =>
      obtain ⟨same, rejected⟩ := Queue.trySend_rejected tried
      rw [rejected] at mirrors
      cases error with
      | closed returned =>
          rw [send_of_closed mirrors.result, Queue.send_of_closed tried]
          exact .inl ⟨rfl, congrArg _ mirrors.log, mirrors.state.represents⟩
      | full returned =>
          obtain rfl : returned = value := same
          exact .inr ⟨rfl, mirrors.result, mirrors.log, mirrors.state.represents⟩

theorem Represents.send (represents : channel.Represents queue)
    (balances : ledger.Balances queue) (alive : queue.alive .sender = true) (value : α)
    (script shown : List (List (Action α)))
    (few : ((ledger.read (channel.send value script).log).close (.send value shown)
      (.sent (channel.send value script).result)).accepted.length ≤ Cursor.horizon) :
    Mirrors Represents (channel.send value script) (queue.send value script) := by
  induction script generalizing channel queue ledger with
  | nil =>
      obtain mirrors | ⟨full, tried, quiet, settled⟩ :=
        represents.send_or_full balances alive shown few
      · exact mirrors
      · rw [send_of_full_nil tried quiet] at few ⊢
        rw [Queue.send_of_full_nil full]
        have waited := settled.await balances alive [.dropReceiver]
          (.inl (Nat.le_trans (Ledger.accepted_le_andThen _ _ _ _ _) few))
        have here := (queue.await_alive .sender [.dropReceiver]).trans alive
        have closed := (waited.state.holds_of_alive here).closed
        rw [Queue.closed, queue.await_dropReceiver, Bool.and_false] at closed
        refine ⟨?_, ?_, ?_⟩
        · simp [sendLast_of_closed closed]
        · simp [sendLast_of_closed closed, waited.log]
        · simpa [sendLast_of_closed closed] using waited.state
  | cons group rest ih =>
      obtain mirrors | ⟨full, tried, quiet, settled⟩ :=
        represents.send_or_full balances alive shown few
      · exact mirrors
      · rw [send_of_full_cons tried quiet] at few ⊢
        rw [Queue.send_of_full_cons full]
        have waited := settled.await balances alive group
          (.inl (Nat.le_trans (Ledger.accepted_le_andThen _ _ _ _ _) few))
        have here := (queue.await_alive .sender group).trans alive
        rw [Outcome.andThen_log, Outcome.andThen_result, Ledger.read_append, waited.log] at few
        exact waited.andThen (ih waited.state (balances.await .sender group) here few)

/-! A blocking receive. -/

theorem receive_of_taken (tried : channel.takeOldest.result = .ok item) :
    channel.receive script =
      ⟨.ok item, channel.takeOldest.state, channel.takeOldest.log.map .event⟩ := by
  unfold receive
  cases script <;> simp [asEntries, tried, Outcome.mapLog]

theorem receive_of_empty_error_nil (empty : channel.takeOldest.result = .error .empty) :
    channel.receive [] =
      (asEntries channel.takeOldest).andThen fun _ channel =>
        (channel.await .receiver [.dropSender]).andThen fun _ channel => channel.receiveLast := by
  unfold receive
  simp [asEntries, empty]

theorem receive_of_empty_error_cons (empty : channel.takeOldest.result = .error .empty) :
    channel.receive (group :: script) =
      (asEntries channel.takeOldest).andThen fun _ channel =>
        (channel.await .receiver group).andThen fun _ channel => channel.receive script := by
  conv => lhs; unfold receive
  simp [asEntries, empty]

theorem receive_of_closed_error (closed : channel.takeOldest.result = .error .closed) :
    (channel.receive script).result = .error .closed ∧
      (channel.receive script).state = channel.takeOldest.state := by
  unfold receive
  cases script <;> simp [asEntries, closed]

theorem receive_of_closed (tried : channel.takeOldest = ⟨.error .closed, channel, []⟩) :
    channel.receive script = ⟨.error .closed, channel, []⟩ := by
  unfold receive
  cases script <;> simp [asEntries, tried, Outcome.mapLog]

theorem receive_of_empty_nil (tried : channel.takeOldest = ⟨.error .empty, channel, []⟩) :
    channel.receive [] =
      (channel.await .receiver [.dropSender]).andThen fun _ channel => channel.receiveLast := by
  rw [receive_of_empty_error_nil (congrArg _ tried), tried]
  rfl

theorem receive_of_empty_cons (tried : channel.takeOldest = ⟨.error .empty, channel, []⟩) :
    channel.receive (group :: script) =
      (channel.await .receiver group).andThen fun _ channel => channel.receive script := by
  rw [receive_of_empty_error_cons (congrArg _ tried), tried]
  rfl

theorem Represents.receive_or_empty (represents : channel.Represents queue)
    (alive : queue.alive .receiver = true) (script : List (List (Action α))) :
    Mirrors Represents (channel.receive script) (queue.receive script) ∨
      queue.items = [] ∧ queue.senderAlive = true ∧
        channel.takeOldest = ⟨.error .empty, channel, []⟩ := by
  have holds := represents.holds_of_alive alive
  cases items : queue.items with
  | cons item rest =>
      obtain ⟨result, log, state⟩ := holds.takeOldest_of_cons items
      rw [receive_of_taken result, Queue.receive_of_cons items]
      exact .inl ⟨rfl, congrArg _ log, state.represents⟩
  | nil =>
      have absent := holds.takeOldest_of_nil alive items
      cases sender : queue.senderAlive with
      | false =>
          simp only [sender, Bool.false_eq_true, if_false] at absent
          rw [receive_of_closed absent, Queue.receive_of_closed items sender]
          exact .inl (.idle represents)
      | true =>
          simp only [sender, if_true] at absent
          exact .inr ⟨rfl, rfl, absent⟩

theorem Represents.receive (represents : channel.Represents queue)
    (balances : ledger.Balances queue) (alive : queue.alive .receiver = true)
    (script shown : List (List (Action α)))
    (few : ((ledger.read (channel.receive script).log).close (.receive shown)
      (.received (channel.receive script).result)).accepted.length ≤ Cursor.horizon) :
    Mirrors Represents (channel.receive script) (queue.receive script) := by
  induction script generalizing channel queue ledger with
  | nil =>
      obtain mirrors | ⟨items, sender, tried⟩ := represents.receive_or_empty alive []
      · exact mirrors
      · rw [receive_of_empty_nil tried] at few ⊢
        rw [Queue.receive_of_empty_nil items sender]
        have waited := represents.await balances alive [.dropSender]
          (.inl (Nat.le_trans (Ledger.accepted_le_andThen _ _ _ _ _) few))
        have here := (queue.await_alive .receiver [.dropSender]).trans alive
        have absent := (waited.state.holds_of_alive here).takeOldest_of_nil here
          (queue.await_dropSender_items items)
        rw [queue.await_dropSender] at absent
        refine ⟨?_, ?_, ?_⟩
        · simp [receiveLast, asEntries, absent]
        · simp [receiveLast, asEntries, absent, waited.log]
        · simpa [receiveLast, asEntries, absent] using waited.state
  | cons group rest ih =>
      obtain mirrors | ⟨items, sender, tried⟩ :=
        represents.receive_or_empty alive (group :: rest)
      · exact mirrors
      · rw [receive_of_empty_cons tried] at few ⊢
        rw [Queue.receive_of_empty_cons items sender]
        have waited := represents.await balances alive group
          (.inl (Nat.le_trans (Ledger.accepted_le_andThen _ _ _ _ _) few))
        have here := (queue.await_alive .receiver group).trans alive
        rw [Outcome.andThen_log, Outcome.andThen_result, Ledger.read_append, waited.log] at few
        exact waited.andThen (ih waited.state (balances.await .receiver group) here few)

/-! A whole run. -/

theorem Represents.call (represents : channel.Represents queue)
    (balances : ledger.Balances queue) (call : Call α)
    (few : ((ledger.read (channel.call call).log).close call
      (channel.call call).result).accepted.length ≤ Cursor.horizon) :
    Mirrors Represents (channel.call call) (queue.call call) := by
  cases call with
  | act action =>
      refine ((represents.perform action (.inl ?_)).mapResult _).mapLog _
      simpa [Channel.call, asEntries, Ledger.read_events, Ledger.close, Ledger.book,
        balances.clear, balances.accepted_length] using few
  | send value script =>
      simp only [Channel.call, represents.senderAlive, Queue.call] at few ⊢
      split
      · next alive =>
          rw [if_pos alive] at few
          exact (represents.send balances alive value script script few).mapResult _
      · exact .idle represents
  | receive script =>
      simp only [Channel.call, represents.receiverAlive, Queue.call] at few ⊢
      split
      · next alive =>
          rw [if_pos alive] at few
          exact (represents.receive balances alive script script few).mapResult _
      · exact .idle represents

theorem Represents.turns (represents : channel.Represents queue)
    (balances : ledger.Balances queue) (calls : List (Call α))
    (few : (ledger.readTurns (channel.turns calls)).accepted.length ≤ Cursor.horizon) :
    channel.turns calls = queue.turns calls ∧
      (channel.after calls).Represents (queue.after calls) := by
  induction calls generalizing channel queue ledger with
  | nil => exact ⟨rfl, represents⟩
  | cons call rest ih =>
      have mirrors := represents.call balances call
        (Nat.le_trans (Ledger.accepted_le_readTurns _ (channel.call call |>.state.turns rest)) few)
      have reports := mirrors.state.reports_eq
      simp only [Channel.turns, mirrors.result, mirrors.log, reports] at few ⊢
      obtain ⟨later, ended⟩ := ih mirrors.state (balances.readTurn call _) few
      rw [later]
      exact ⟨rfl, ended⟩

theorem turns_of_create {overflow : Overflow} {requested : Nat} {created : Step α Unit}
    (made : create overflow requested = .ok created) (calls : List (Call α))
    (few : (Ledger.ofTurns (created.state.turns calls)).accepted.length ≤ Cursor.horizon) :
    ∃ bound, ringSize? requested = some (bound + 1) ∧ 0 < bound ∧
      created.state.turns calls = (Queue.empty overflow bound).turns calls ∧
      (created.state.after calls).Represents ((Queue.empty overflow bound).after calls) ∧
      (Ledger.ofTurns (created.state.turns calls)).Balances
        ((Queue.empty overflow bound).after calls) := by
  obtain ⟨bound, size, holds⟩ := holds_of_create made
  have balances := @Ledger.balances_empty α overflow bound
  obtain ⟨same, ended⟩ := holds.represents.turns balances calls few
  refine ⟨bound, size, holds.mask.roomy, same, ended, ?_⟩
  rw [same]
  exact balances.readTurns calls

theorem turns_of_size {overflow : Overflow} {requested bound : Nat} {created : Step α Unit}
    (made : create overflow requested = .ok created)
    (size : ringSize? requested = some (bound + 1)) (calls : List (Call α))
    (few : (Ledger.ofTurns (created.state.turns calls)).accepted.length ≤ Cursor.horizon) :
    created.state.turns calls = (Queue.empty overflow bound).turns calls ∧
      (created.state.after calls).Represents ((Queue.empty overflow bound).after calls) ∧
      (Ledger.ofTurns (created.state.turns calls)).Balances
        ((Queue.empty overflow bound).after calls) := by
  obtain ⟨same, size', -, turns, represents, balances⟩ := turns_of_create made calls few
  obtain rfl : same = bound := by
    rw [size'] at size
    simpa using size
  exact ⟨turns, represents, balances⟩

theorem few_before {calls further : List (Call α)}
    (few : (Ledger.ofTurns (channel.turns (calls ++ further))).accepted.length <
      Cursor.horizon) :
    (Ledger.ofTurns (channel.turns calls)).accepted.length < Cursor.horizon := by
  rw [turns_append, Ledger.ofTurns_append] at few
  exact Nat.lt_of_le_of_lt (Ledger.accepted_le_readTurns _ _) few

/-- A channel that waits when it is full is a bounded queue: whatever is called, in any
order and however often the cursors go round the ring, the answers, the events and the
reports of both ends are those of the queue.  A ring of `bound + 1` slots holds
`bound` elements. -/
theorem waiting_turns_eq {requested : Nat} {created : Step α Unit}
    (made : create .wait requested = .ok created) (calls : List (Call α))
    (few : (Ledger.ofTurns (created.state.turns calls)).accepted.length < Cursor.horizon) :
    ∃ bound, ringSize? requested = some (bound + 1) ∧ 0 < bound ∧
      created.state.turns calls = (Queue.empty .wait bound).turns calls ∧
      ((Queue.empty .wait bound).after calls).items.length ≤ bound := by
  obtain ⟨bound, size, roomy, same, -, balances⟩ := turns_of_create made calls (Nat.le_of_lt few)
  refine ⟨bound, size, roomy, same, ?_⟩
  have fits := balances.fits
  rwa [Queue.after_bound] at fits

/-- A ring of four slots is filled, refuses a value, is emptied and is left. -/
theorem four_slots_wait :
    let calls : List (Call Nat) :=
      [.act (.trySend 1), .act (.trySend 2), .act (.trySend 3), .act (.trySend 4),
        .act .tryReceive, .act (.trySend 5), .act (.drain none []), .act .dropSender,
        .act .tryReceive]
    (ofSize .wait 4).turns calls = (Queue.empty .wait 3).turns calls := by
  intro calls
  obtain ⟨bound, size, -, same, -⟩ := @waiting_turns_eq Nat 4
    ⟨(), ofSize .wait 4, [.noted (.ringCreated 4 4 false)]⟩ rfl calls (by decide)
  obtain rfl : 3 = bound := Nat.succ.inj (Option.some.inj size)
  exact same

/-- A channel that overwrites when it is full is a window on what was sent last: it
takes every value while there is a receiver, and loses its oldest element to a value
for which there is no room.  The receiver gets what the window holds, and is never told
that it missed an element, also if the operations are carried out access by access. -/
theorem overwriting_turns_eq {requested : Nat} {created : Step α Unit}
    (made : create .overwrite requested = .ok created) (calls : List (Call α))
    (few : (Ledger.ofTurns (created.state.turns calls)).accepted.length < Cursor.horizon) :
    ∃ bound, ringSize? requested = some (bound + 1) ∧ 0 < bound ∧
      created.state.turns calls = (Queue.empty .overwrite bound).turns calls ∧
      ((Queue.empty .overwrite bound).after calls).items.length ≤ bound ∧
      let channel := created.state.after calls
      let window := (Queue.empty .overwrite bound).after calls
      (window.senderAlive = true → ∀ value,
        ((Interleaving.ofChannel channel).sendAlone value).Reaches (channel.trySend value) ∧
          ((Interleaving.ofChannel channel).sendAlone value).sending =
            .idle (some (if window.receiverAlive then .ok () else .error (.closed value)))) ∧
      (window.receiverAlive = true →
        (Interleaving.ofChannel channel).receiveAlone.Reaches channel.tryReceive ∧
          (Interleaving.ofChannel channel).receiveAlone.receiving =
            .idle (some window.tryReceive.result) ∧
          window.tryReceive.result ≠ .error .skipped) := by
  obtain ⟨bound, size, roomy, same, ended, balances⟩ :=
    turns_of_create made calls (Nat.le_of_lt few)
  have fits := balances.fits
  rw [Queue.after_bound] at fits
  refine ⟨bound, size, roomy, same, fits, ?_, ?_⟩
  · intro alive value
    have holds := @Represents.holds_of_alive _ _ _ .sender ended alive
    have room : ((Queue.empty .overwrite bound).after calls).accepted < Cursor.horizon := by
      rwa [balances.accepted_length] at few
    have sent := (holds.trySend alive value fun _ => room).result
    rw [Queue.trySend_overwriting_result (Queue.after_overflow _ calls)
      (by rwa [Queue.after_bound])] at sent
    obtain ⟨reaches, idle⟩ := holds.sendAlone value
    rw [sent] at idle
    exact ⟨reaches, idle⟩
  · intro alive
    have holds := @Represents.holds_of_alive _ _ _ .receiver ended alive
    obtain ⟨reaches, idle⟩ := holds.receiveAlone alive
    rw [(holds.tryReceive alive).result] at idle
    exact ⟨reaches, idle, Queue.tryReceive_not_skipped _⟩

/-- In a ring for one element, the last value takes the place of the one before. -/
theorem two_slots_overwrite :
    let calls : List (Call Nat) :=
      [.act (.trySend 1), .act (.trySend 2), .act .tryReceive, .send 3 [],
        .act (.trySend 4), .act .dropSender, .receive [], .receive []]
    (ofSize .overwrite 2).turns calls = (Queue.empty .overwrite 1).turns calls := by
  intro calls
  obtain ⟨bound, size, -, same, -⟩ := @overwriting_turns_eq Nat 2
    ⟨(), ofSize .overwrite 2, [.noted (.ringCreated 2 2 true)]⟩ rfl calls (by decide +kernel)
  obtain rfl : 1 = bound := Nat.succ.inj (Option.some.inj size)
  exact same

end Channel

end Handoff.Ring
