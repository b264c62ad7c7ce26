import Handoff.Proofs.Ring.Caches
import Mathlib.Order.Bounds.Basic

namespace Handoff.Ring

/-! How long a blocking call waits, and what it has done in the end.  It waits for as many
groups of the peer's actions as have to go by before it can go on, and for none more; the
groups find the channel as if nobody were waiting.
-/

/-- What the peer does when its script is used up. -/
def leave : Side → Action α
  | .sender => .dropReceiver
  | .receiver => .dropSender

/-- The groups that a blocked call can wait for. -/
def groups (blocked : Side) (script : List (List (Action α))) : List (List (Action α)) :=
  script ++ [[leave blocked]]

/-- How often a call has waited. -/
def waits (log : List (ChannelEntry α)) : Nat :=
  log.countP fun
    | .waiting .. => true
    | _ => false

namespace Channel

/-- One wait after another, with no attempt in between. -/
def awaitEach (blocked : Side) (channel : Channel α) : List (List (Action α)) → Blocking α Unit
  | [] => ⟨(), channel, []⟩
  | group :: rest =>
      (channel.await blocked group).andThen fun _ channel => channel.awaitEach blocked rest

/-- Whether a call on the side can go on.  A sender that overwrites always can. -/
def lets (channel : Channel α) : Side → Bool
  | .sender =>
      decide (channel.contents.length < channel.capacity) || !channel.receiverAlive ||
        channel.overflow.overwrites
  | .receiver => !channel.contents.isEmpty || !channel.senderAlive

/-- Some elements have left at the front and others have come in at the back, and nothing
else has changed. -/
structure Passes (before : Channel α) (left entered : List α) (after : Channel α) : Prop where
  mask : after.mask = before.mask
  overflow : after.overflow = before.overflow
  closed : after.closed = before.closed
  senderAlive : after.senderAlive = before.senderAlive
  receiverAlive : after.receiverAlive = before.receiverAlive
  receiveCursor : after.receiveCursor.toNat = before.receiveCursor.toNat + left.length
  sendCursor : after.sendCursor.toNat = before.sendCursor.toNat + entered.length
  contents : before.contents ++ entered = left ++ after.contents

/-- How a send ends when it has waited long enough. -/
inductive SendEnds (waited : Blocking α Unit) (value : α)
    (sent : Blocking α (Except (SendError α) Unit)) : Prop where
  | handedBack (gone : waited.state.receiverAlive = false)
      (result : sent.result = .error ⟨value⟩) (log : sent.log = waited.log)
      (state : waited.state.Passes [] [] sent.state)
  | accepted (there : waited.state.receiverAlive = true)
      (room : waited.state.contents.length < waited.state.capacity)
      (result : sent.result = .ok ())
      (log : sent.log = waited.log ++ [.event (.notified .receiver)])
      (state : waited.state.Passes [] [value] sent.state)
  | overwrote (oldest : α) (there : waited.state.receiverAlive = true)
      (full : waited.state.contents.length = waited.state.capacity)
      (overwrites : waited.state.overflow = .overwrite) (result : sent.result = .ok ())
      (log : sent.log = waited.log ++
        [.event (.destroyed oldest),
          .event (.noted (.oldestOverwritten waited.state.receiveCursor.toNat)),
          .event (.notified .receiver)])
      (state : waited.state.Passes [oldest] [value] sent.state)

/-- How a receive ends when it has waited long enough. -/
inductive ReceiveEnds (waited : Blocking α Unit)
    (received : Blocking α (Except ReceiveError α)) : Prop where
  | taken (oldest : α) (result : received.result = .ok oldest)
      (log : received.log = waited.log ++ [.event (.notified .sender)])
      (state : waited.state.Passes [oldest] [] received.state)
  | finished (gone : waited.state.senderAlive = false) (drained : waited.state.contents = [])
      (result : received.result = .error .closed) (log : received.log = waited.log)
      (state : waited.state.Passes [] [] received.state)

end Channel

namespace Queue

variable {queue : Queue α} {value : α}

def awaitEach (blocked : Side) (queue : Queue α) : List (List (Action α)) → Blocking α Unit
  | [] => ⟨(), queue, []⟩
  | group :: rest =>
      (queue.await blocked group).andThen fun _ queue => queue.awaitEach blocked rest

def lets (queue : Queue α) : Side → Bool
  | .sender =>
      decide (queue.items.length < queue.bound) || !queue.receiverAlive ||
        queue.overflow.overwrites
  | .receiver => !queue.items.isEmpty || !queue.senderAlive

/-- The last attempt of a blocking send. -/
def sendLast (queue : Queue α) (value : α) : Blocking α (Except (SendError α) Unit) :=
  ((queue.trySend value).mapResult fun
    | .ok () => .ok ()
    | .error error => .error ⟨error.value⟩).mapLog fun log => log.map .event

/-- The last attempt of a blocking receive. -/
def receiveLast (queue : Queue α) : Blocking α (Except ReceiveError α) :=
  (queue.tryReceive.mapResult fun
    | .ok value => .ok value
    | .error _ => .error .closed).mapLog fun log => log.map .event

theorem awaitEach_append (blocked : Side) (queue : Queue α) (first second : List (List (Action α))) :
    queue.awaitEach blocked (first ++ second) =
      (queue.awaitEach blocked first).andThen fun _ queue => queue.awaitEach blocked second := by
  induction first generalizing queue with
  | nil => rfl
  | cons group rest ih =>
      rw [List.cons_append, awaitEach, awaitEach]
      simp only [ih, Outcome.andThen, List.append_assoc]

theorem awaitEach_alive (blocked : Side) (queue : Queue α) (each : List (List (Action α))) :
    (queue.awaitEach blocked each).state.alive blocked = queue.alive blocked := by
  induction each generalizing queue with
  | nil => rfl
  | cons group rest ih => exact (ih _).trans (queue.await_alive blocked group)

theorem await_bound (blocked : Side) (queue : Queue α) (group : List (Action α)) :
    (queue.await blocked group).state.bound = queue.bound :=
  await_fixed (fun _ _ _ => rfl) (fun action _ => by cases action <;> simp [Spares]) queue group

theorem awaitEach_bound (blocked : Side) (queue : Queue α) (each : List (List (Action α))) :
    (queue.awaitEach blocked each).state.bound = queue.bound := by
  induction each generalizing queue with
  | nil => rfl
  | cons group rest ih => exact (ih _).trans (queue.await_bound blocked group)

/-- Whoever waits for its peer to leave has nothing more to wait for. -/
theorem lets_leave (blocked : Side) (queue : Queue α) :
    (queue.await blocked [leave blocked]).state.lets blocked = true := by
  cases blocked with
  | sender => simp [lets, leave, await_dropReceiver]
  | receiver => simp [lets, leave, await_dropSender]

/-! Trying again after every wait. -/

/-- The call tries, and waits and tries again for as long as it is not let on. -/
structure Retries (blocked : Side) (call : Queue α → List (List (Action α)) → Blocking α ρ)
    (last : Queue α → Blocking α ρ) : Prop where
  goes : ∀ queue script, queue.alive blocked = true → 0 < queue.bound →
    queue.lets blocked = true → call queue script = last queue
  ends : ∀ queue, queue.lets blocked = false →
    call queue [] = (queue.await blocked [leave blocked]).andThen fun _ queue => last queue
  waits : ∀ queue group rest, queue.lets blocked = false →
    call queue (group :: rest) =
      (queue.await blocked group).andThen fun _ queue => call queue rest

theorem isLeast_succ {holds : Nat → Prop} {count : Nat} (before : ¬holds 0)
    (least : IsLeast {count | holds (count + 1)} count) : IsLeast {count | holds count} (count + 1) := by
  refine ⟨least.1, ?_⟩
  rintro (_ | other) held
  · exact absurd held before
  · exact Nat.succ_le_succ (least.2 held)

/-- Such a call waits for the least number of groups after which it is let on, and then its
last attempt is the only one that counts. -/
theorem Retries.least {blocked : Side} {call : Queue α → List (List (Action α)) → Blocking α ρ}
    {last : Queue α → Blocking α ρ} (retries : Retries blocked call last)
    (alive : queue.alive blocked = true) (roomy : 0 < queue.bound)
    (script : List (List (Action α))) :
    ∃ count, count ≤ script.length + 1 ∧
      IsLeast {count |
        (queue.awaitEach blocked ((groups blocked script).take count)).state.lets blocked =
          true} count ∧
      call queue script =
        (queue.awaitEach blocked ((groups blocked script).take count)).andThen
          fun _ queue => last queue := by
  induction script generalizing queue with
  | nil =>
      cases ready : queue.lets blocked with
      | true =>
          exact ⟨0, Nat.zero_le _, ⟨ready, fun _ _ => Nat.zero_le _⟩,
            retries.goes queue [] alive roomy ready⟩
      | false =>
          refine ⟨1, Nat.le_refl _, isLeast_succ (by simp [awaitEach, ready]) ?_, ?_⟩
          · exact ⟨lets_leave blocked queue, fun _ _ => Nat.zero_le _⟩
          · rw [retries.ends queue ready]
            simp [groups, awaitEach, Outcome.andThen]
  | cons group rest ih =>
      cases ready : queue.lets blocked with
      | true =>
          exact ⟨0, Nat.zero_le _, ⟨ready, fun _ _ => Nat.zero_le _⟩,
            retries.goes queue _ alive roomy ready⟩
      | false =>
          obtain ⟨count, within, least, called⟩ := @ih (queue.await blocked group).state
            ((queue.await_alive blocked group).trans alive)
            (roomy.trans_eq (queue.await_bound blocked group).symm)
          refine ⟨count + 1, Nat.succ_le_succ within, isLeast_succ ?_ least, ?_⟩
          · simp [awaitEach, ready]
          · rw [retries.waits queue group rest ready]
            simp only [called, groups, List.cons_append, List.take_succ_cons, awaitEach,
              Outcome.andThen, List.append_assoc]

theorem trySend_of_held (held : queue.lets .sender = false) (value : α) :
    (queue.trySend value).result = .error (.full value) := by
  simp only [lets, Bool.or_eq_false_iff, decide_eq_false_iff_not, Nat.not_lt,
    Bool.not_eq_false'] at held
  obtain ⟨⟨full, there⟩, waiting⟩ := held
  have waits : queue.overflow = .wait := by
    cases overflow : queue.overflow with
    | wait => rfl
    | overwrite =>
        rw [overflow] at waiting
        cases waiting
  rw [trySend_of_full there full (.inl waits)]

theorem trySend_of_let (roomy : 0 < queue.bound) (ready : queue.lets .sender = true)
    (value returned : α) : (queue.trySend value).result ≠ .error (.full returned) := by
  intro refused
  obtain ⟨_, tried⟩ | ⟨_, _, tried⟩ | ⟨_, _, _, _, _, _, tried⟩ | ⟨there, full, held, -⟩ :=
    queue.trySend_cases value
  · simp [tried] at refused
  · simp [tried] at refused
  · simp [tried] at refused
  · simp only [lets, there, Bool.not_true, Bool.or_false, Bool.or_eq_true,
      decide_eq_true_eq] at ready
    obtain room | overwrites := ready
    · omega
    · obtain waits | none := held
      · rw [waits] at overwrites
        cases overwrites
      · rw [none] at full
        exact Nat.not_lt.mpr full roomy

theorem send_retries (value : α) :
    Retries .sender (fun queue script => queue.send value script) (fun queue => queue.sendLast value) where
  goes queue script alive roomy ready := by
    cases tried : (queue.trySend value).result with
    | ok =>
        rw [send_of_accepted tried, sendLast]
        simp [Outcome.mapResult, Outcome.mapLog, tried]
    | error error =>
        cases error with
        | closed returned =>
            rw [send_of_closed tried, sendLast, (trySend_rejected tried).2]
            rfl
        | full returned => exact absurd tried (trySend_of_let roomy ready value returned)
  ends queue held := by
    rw [send_of_full_nil (trySend_of_held held value)]
    simp [leave, sendLast, trySend_of_gone queue.await_dropReceiver, Outcome.andThen,
      Outcome.mapResult, Outcome.mapLog, TrySendError.value]
  waits queue group rest held := send_of_full_cons (trySend_of_held held value)

theorem empty_of_held (held : queue.lets .receiver = false) :
    queue.items = [] ∧ queue.senderAlive = true := by
  simpa [lets] using held

theorem receive_retries :
    Retries .receiver (fun queue script => queue.receive script) (receiveLast : Queue α → _) where
  goes queue script alive roomy ready := by
    cases items : queue.items with
    | cons item rest =>
        rw [receive_of_cons items, receiveLast, tryReceive_of_cons items]
        rfl
    | nil =>
        have gone : queue.senderAlive = false := by simpa [lets, items] using ready
        rw [receive_of_closed items gone, receiveLast, tryReceive_of_nil items]
        rfl
  ends queue held := by
    obtain ⟨items, sender⟩ := empty_of_held held
    rw [receive_of_empty_nil items sender]
    simp [leave, receiveLast, tryReceive_of_nil (await_dropSender_items items), Outcome.andThen,
      Outcome.mapResult, Outcome.mapLog]
  waits queue group rest held := by
    obtain ⟨items, sender⟩ := empty_of_held held
    exact receive_of_empty_cons items sender

/-! Counting the waits. -/

theorem waits_append (first second : List (ChannelEntry α)) :
    waits (first ++ second) = waits first + waits second :=
  List.countP_append

theorem waits_events (log : List (Event α)) : waits (log.map .event) = 0 := by
  simp [waits, List.countP_eq_zero]

theorem waits_performGroup (blocked : Side) (queue : Queue α) (group : List (Action α)) :
    waits (queue.performGroup blocked group).log = 0 := by
  induction group generalizing queue with
  | nil => rfl
  | cons action rest ih =>
      rw [performGroup, Outcome.andThen_log, waits_append, ih, performAsPeer, waits_append,
        waits_events]
      rfl

theorem waits_await (blocked : Side) (queue : Queue α) (group : List (Action α)) :
    waits (queue.await blocked group).log = 1 := by
  have acted := waits_performGroup blocked queue group
  simp only [waits] at acted
  simp [waits, await, acted]

theorem waits_awaitEach (blocked : Side) (queue : Queue α) (each : List (List (Action α))) :
    waits (queue.awaitEach blocked each).log = each.length := by
  induction each generalizing queue with
  | nil => rfl
  | cons group rest ih =>
      rw [awaitEach, Outcome.andThen_log, waits_append, waits_await, ih, List.length_cons,
        Nat.add_comm]

end Queue

namespace Channel

variable {channel before after : Channel α} {queue next : Queue α} {ledger : Ledger α}
  {blocked : Side} {each : List (List (Action α))} {left entered : List α} {count : Nat}

theorem Represents.awaitEach (represents : channel.Represents queue)
    (balances : ledger.Balances queue) (alive : queue.alive blocked = true)
    (each : List (List (Action α)))
    (few : (ledger.read (queue.awaitEach blocked each).log).accepted.length < Cursor.horizon) :
    Mirrors Represents (channel.awaitEach blocked each) (queue.awaitEach blocked each) := by
  induction each generalizing channel queue ledger with
  | nil => exact .idle represents
  | cons group rest ih =>
      rw [Queue.awaitEach, Outcome.andThen_log, Ledger.read_append] at few
      have waited := represents.await balances alive group
        (.inr (Nat.lt_of_le_of_lt (Ledger.accepted_le_read _ _) few))
      exact waited.andThen (ih waited.state (balances.await blocked group)
        ((queue.await_alive blocked group).trans alive) few)

theorem Holds.lets_eq (holds : channel.Holds queue) (side : Side) :
    channel.lets side = queue.lets side := by
  cases side with
  | sender =>
      rw [lets, Queue.lets, holds.contents_eq, Memory.capacity, holds.mask.toNat_eq,
        holds.receiverAlive, holds.overflow]
  | receiver => rw [lets, Queue.lets, holds.contents_eq, holds.senderAlive]

theorem Holds.passes (holds : before.Holds queue) (later : after.Holds next)
    (bound : next.bound = queue.bound) (overflow : next.overflow = queue.overflow)
    (sender : next.senderAlive = queue.senderAlive)
    (receiver : next.receiverAlive = queue.receiverAlive)
    (departed : next.departed = queue.departed + left.length)
    (items : queue.items ++ entered = left ++ next.items) : before.Passes left entered after where
  mask := UInt64.toNat_inj.mp (by rw [later.mask.toNat_eq, holds.mask.toNat_eq, bound])
  overflow := by rw [later.overflow, holds.overflow, overflow]
  closed := by rw [later.closed, holds.closed, Queue.closed, Queue.closed, sender, receiver]
  senderAlive := by rw [later.senderAlive, holds.senderAlive, sender]
  receiverAlive := by rw [later.receiverAlive, holds.receiverAlive, receiver]
  receiveCursor := by rw [later.oldest, holds.oldest, departed]
  sendCursor := by
    have lengths := congrArg List.length items
    rw [List.length_append, List.length_append] at lengths
    rw [later.newest, holds.newest, Queue.accepted, Queue.accepted, departed]
    omega
  contents := by rw [holds.contents_eq, later.contents_eq, items]

/-- What is least for the queue is least for the channel, as far as few elements are sent. -/
theorem Represents.least (represents : channel.Represents queue)
    (balances : ledger.Balances queue) (alive : queue.alive blocked = true)
    (few : (ledger.read (queue.awaitEach blocked (each.take count)).log).accepted.length <
      Cursor.horizon)
    (least : IsLeast {count |
      (queue.awaitEach blocked (each.take count)).state.lets blocked = true} count) :
    Mirrors Represents (channel.awaitEach blocked (each.take count))
        (queue.awaitEach blocked (each.take count)) ∧
      IsLeast {count |
        (channel.awaitEach blocked (each.take count)).state.lets blocked = true} count := by
  have fewer {early : Nat} (within : early ≤ count) :
      (ledger.read (queue.awaitEach blocked (each.take early)).log).accepted.length <
        Cursor.horizon := by
    have split : each.take count = each.take early ++ (each.take count).drop early := by
      have shorter : each.take early = (each.take count).take early := by
        rw [List.take_take, Nat.min_eq_left within]
      rw [shorter, List.take_append_drop]
    rw [split, Queue.awaitEach_append, Outcome.andThen_log, Ledger.read_append] at few
    exact Nat.lt_of_le_of_lt (Ledger.accepted_le_read _ _) few
  have same {early : Nat} (within : early ≤ count) :
      (channel.awaitEach blocked (each.take early)).state.lets blocked =
        (queue.awaitEach blocked (each.take early)).state.lets blocked := by
    have mirrors := represents.awaitEach balances alive (each.take early) (fewer within)
    have there := (queue.awaitEach_alive blocked (each.take early)).trans alive
    exact (mirrors.state.holds_of_alive there).lets_eq blocked
  refine ⟨represents.awaitEach balances alive _ few, (same (Nat.le_refl _)).trans least.1, ?_⟩
  intro early ready
  by_contra sooner
  have within := Nat.le_of_lt (Nat.lt_of_not_le sooner)
  exact sooner (least.2 ((same within).symm.trans ready))

/-! Both calls. -/

/-- A blocking send waits for as few groups as it can. -/
structure SendWaits (channel : Channel α) (value : α) (script : List (List (Action α)))
    (count : Nat) : Prop where
  within : count ≤ script.length + 1
  least : IsLeast {count |
    (channel.awaitEach .sender ((groups .sender script).take count)).state.lets .sender =
      true} count
  waits_eq : waits (channel.send value script).log = count
  ends : SendEnds (channel.awaitEach .sender ((groups .sender script).take count)) value
    (channel.send value script)

/-- A blocking receive waits for as few groups as it can. -/
structure ReceiveWaits (channel : Channel α) (script : List (List (Action α))) (count : Nat) :
    Prop where
  within : count ≤ script.length + 1
  least : IsLeast {count |
    (channel.awaitEach .receiver ((groups .receiver script).take count)).state.lets .receiver =
      true} count
  waits_eq : waits (channel.receive script).log = count
  ends : ReceiveEnds (channel.awaitEach .receiver ((groups .receiver script).take count))
    (channel.receive script)

variable {value : α} {script : List (List (Action α))} {waited : Blocking α Unit}
  {expected : Queue.Blocking α Unit}

theorem waits_of_last {last : Queue α → Queue.Blocking α ρ}
    (within : count ≤ script.length + 1)
    (silent : ∀ queue, waits (last queue).log = 0) :
    waits ((queue.awaitEach blocked ((groups blocked script).take count)).andThen
      fun _ queue => last queue).log = count := by
  rw [Outcome.andThen_log, Queue.waits_append, silent, Queue.waits_awaitEach, List.length_take,
    groups, List.length_append, List.length_singleton, Nat.min_eq_left within, Nat.add_zero]

/-- The attempt after the waits is the only one that leaves a trace. -/
theorem Represents.sendEnds (mirrors : Mirrors Represents waited expected)
    (alive : expected.state.alive .sender = true) (roomy : 0 < expected.state.bound)
    (ready : expected.state.lets .sender = true)
    {sent : Blocking α (Except (SendError α) Unit)}
    (ended : Mirrors Represents sent (expected.andThen fun _ queue => queue.sendLast value)) :
    SendEnds waited value sent := by
  have before := mirrors.state.holds_of_alive alive
  have result := ended.result
  have log := ended.log
  have state := ended.state
  have still : (expected.state.sendLast value).state.alive .sender = true :=
    (Queue.trySend_fixed (Queue.alive_fixed .sender) expected.state value).trans alive
  have after := state.holds_of_alive still
  rw [Outcome.andThen_result] at result
  rw [Outcome.andThen_log, ← mirrors.log] at log
  rw [Outcome.andThen_state] at after
  obtain ⟨gone, tried⟩ | ⟨there, room, tried⟩ | ⟨oldest, rest, there, full, held, items, tried⟩ |
    ⟨_, _, _, tried⟩ := expected.state.trySend_cases value
  · rw [Queue.sendLast, tried] at result log after
    refine .handedBack (before.receiverAlive.trans gone) result (by simpa using log) ?_
    exact before.passes after rfl rfl rfl rfl rfl (List.append_nil _)
  · rw [Queue.sendLast, tried] at result log after
    refine .accepted (before.receiverAlive.trans there) ?_ result log ?_
    · rw [before.contents_eq, Memory.capacity, before.mask.toNat_eq]
      exact room
    · exact before.passes after rfl rfl rfl rfl rfl rfl
  · rw [Queue.sendLast, tried] at result log after
    refine .overwrote oldest (before.receiverAlive.trans there) ?_
      (before.overflow.trans held) result ?_ ?_
    · rw [before.contents_eq, Memory.capacity, before.mask.toNat_eq]
      exact Nat.le_antisymm before.fits full
    · rw [before.oldest]
      exact log
    · refine before.passes after rfl rfl rfl rfl rfl ?_
      simp [Queue.append, Queue.removeOldest, items]
  · exact absurd (congrArg Outcome.result tried) (Queue.trySend_of_let roomy ready value value)

theorem Represents.send_waits (represents : channel.Represents queue)
    (balances : ledger.Balances queue) (alive : queue.alive .sender = true)
    (few : ((ledger.read (channel.send value script).log).close (.send value script)
      (.sent (channel.send value script).result)).accepted.length < Cursor.horizon) :
    ∃ count, channel.SendWaits value script count := by
  have mirrors := represents.send balances alive value script script (Nat.le_of_lt few)
  have roomy := (represents.holds_of_alive alive).mask.roomy
  obtain ⟨count, within, least, called⟩ := (Queue.send_retries value).least alive roomy script
  rw [called] at mirrors
  rw [mirrors.log] at few
  have fewWaited := Nat.lt_of_le_of_lt (Ledger.accepted_le_andThen ledger _ _ _ _) few
  obtain ⟨waited, leastHere⟩ := represents.least balances alive fewWaited least
  have there := queue.awaitEach_alive .sender ((groups .sender script).take count)
  have bound := queue.awaitEach_bound .sender ((groups .sender script).take count)
  refine ⟨count, within, leastHere, ?_, ?_⟩
  · rw [mirrors.log]
    exact waits_of_last within fun _ => Queue.waits_events _
  · exact Represents.sendEnds waited (there.trans alive) (roomy.trans_eq bound.symm) least.1 mirrors

theorem Represents.receiveEnds (mirrors : Mirrors Represents waited expected)
    (alive : expected.state.alive .receiver = true)
    (ready : expected.state.lets .receiver = true)
    {received : Blocking α (Except ReceiveError α)}
    (ended : Mirrors Represents received (expected.andThen fun _ queue => queue.receiveLast)) :
    ReceiveEnds waited received := by
  have before := mirrors.state.holds_of_alive alive
  have result := ended.result
  have log := ended.log
  have still : expected.state.receiveLast.state.alive .receiver = true :=
    (Queue.tryReceive_fixed (Queue.alive_fixed .receiver) expected.state).trans alive
  have after := ended.state.holds_of_alive still
  rw [Outcome.andThen_result] at result
  rw [Outcome.andThen_log, ← mirrors.log] at log
  rw [Outcome.andThen_state] at after
  cases items : expected.state.items with
  | cons item rest =>
      rw [Queue.receiveLast, Queue.tryReceive_of_cons items] at result log after
      refine .taken item result log ?_
      refine before.passes after rfl rfl rfl rfl rfl ?_
      simp [Queue.removeOldest, items]
  | nil =>
      have gone : expected.state.senderAlive = false := by
        simpa [Queue.lets, items] using ready
      rw [Queue.receiveLast, Queue.tryReceive_of_nil items] at result log after
      refine .finished (before.senderAlive.trans gone) (before.contents_eq.trans items) result
        (by simpa using log) ?_
      exact before.passes after rfl rfl rfl rfl rfl (List.append_nil _)

theorem Represents.receive_waits (represents : channel.Represents queue)
    (balances : ledger.Balances queue) (alive : queue.alive .receiver = true)
    (few : ((ledger.read (channel.receive script).log).close (.receive script)
      (.received (channel.receive script).result)).accepted.length < Cursor.horizon) :
    ∃ count, channel.ReceiveWaits script count := by
  have mirrors := represents.receive balances alive script script (Nat.le_of_lt few)
  have roomy := (represents.holds_of_alive alive).mask.roomy
  obtain ⟨count, within, least, called⟩ := Queue.receive_retries.least alive roomy script
  rw [called] at mirrors
  rw [mirrors.log] at few
  have fewWaited := Nat.lt_of_le_of_lt (Ledger.accepted_le_andThen ledger _ _ _ _) few
  obtain ⟨waited, leastHere⟩ := represents.least balances alive fewWaited least
  have there := queue.awaitEach_alive .receiver ((groups .receiver script).take count)
  refine ⟨count, within, leastHere, ?_, ?_⟩
  · rw [mirrors.log]
    exact waits_of_last within fun _ => Queue.waits_events _
  · exact Represents.receiveEnds waited (there.trans alive) least.1 mirrors

/-- A blocking call waits for the least number of groups after which it is let on, and in
the end has done what a single attempt does then.  A sender is let on when there is room, or
nobody to receive, and needs neither if it overwrites; a receiver when there is an element,
or nobody to send one. -/
theorem blocking_calls_wait_least {overflow : Overflow} {requested : Nat}
    {created : Step α Unit} (made : create overflow requested = .ok created)
    (calls : List (Call α)) :
    let channel := created.state.after calls
    (∀ value script, channel.senderAlive = true →
        (Ledger.ofTurns (created.state.turns (calls ++ [.send value script]))).accepted.length <
          Cursor.horizon →
        ∃ count, channel.SendWaits value script count) ∧
      ∀ script, channel.receiverAlive = true →
        (Ledger.ofTurns (created.state.turns (calls ++ [.receive script]))).accepted.length <
          Cursor.horizon →
        ∃ count, channel.ReceiveWaits script count := by
  intro channel
  constructor
  · intro value script alive few
    obtain ⟨bound, -, -, -, represents, balances⟩ :=
      turns_of_create made calls (Nat.le_of_lt (few_before few))
    refine represents.send_waits balances (represents.senderAlive.symm.trans alive) ?_
    rw [turns_append, Ledger.ofTurns_append] at few
    simpa [Channel.turns, Channel.call, alive, channel, Ledger.readTurns, Ledger.readTurn] using few
  · intro script alive few
    obtain ⟨bound, -, -, -, represents, balances⟩ :=
      turns_of_create made calls (Nat.le_of_lt (few_before few))
    refine represents.receive_waits balances (represents.receiverAlive.symm.trans alive) ?_
    rw [turns_append, Ledger.ofTurns_append] at few
    simpa [Channel.turns, Channel.call, alive, channel, Ledger.readTurns, Ledger.readTurn] using few

/-- The ring is full at first; one group does nothing and one is refused its value, and only
the third one makes room. -/
theorem third_group_makes_room :
    let calls : List (Call Nat) := [.act (.trySend 1)]
    let script : List (List (Action Nat)) := [[], [.trySend 9], [.tryReceive]]
    ((ofSize .wait 2).after calls).SendWaits 5 script 3 := by
  intro calls script
  obtain ⟨count, sent⟩ := (@blocking_calls_wait_least Nat .wait 2
    ⟨(), ofSize .wait 2, [.noted (.ringCreated 2 2 false)]⟩ rfl calls).1 5 script rfl
    (by decide +kernel)
  have three : waits (((ofSize .wait 2).after calls).send 5 script).log = 3 := by decide +kernel
  obtain rfl : count = 3 := sent.waits_eq.symm.trans three
  exact sent

/-- There is room only after the first group, but a sender that overwrites does not wait for
it. -/
theorem full_window_waits_for_nobody :
    let channel : Channel Nat := (ofSize .overwrite 2).after [.act (.trySend 1)]
    let script : List (List (Action Nat)) := [[.tryReceive]]
    IsLeast {count |
      let waited := (channel.awaitEach .sender ((groups .sender script).take count)).state
      waited.contents.length < waited.capacity ∨ waited.receiverAlive = false} 1 ∧
    waits (channel.send 2 script).log = 0 := by
  refine ⟨⟨by decide +kernel, ?_⟩, by decide +kernel⟩
  rintro (_ | count) ready
  · exact absurd ready (by decide +kernel)
  · exact Nat.succ_pos count

end Channel

end Handoff.Ring
