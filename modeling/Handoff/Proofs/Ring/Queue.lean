import Handoff.Ring.Blocking

namespace Handoff.Ring

/-! What a channel is to those who use it: a bounded queue between two ends.
Nothing is said here of cursors and slots, or of what one end remembers of the
other.  The queue answers the same calls as a channel, so that the two can be
compared answer by answer and event by event.
-/

structure Queue (α : Type u) where
  /-- How many elements it can hold. -/
  bound : Nat
  overflow : Overflow
  /-- How many elements have left it. -/
  departed : Nat
  items : List α
  senderAlive : Bool
  receiverAlive : Bool

namespace Queue

abbrev Step (α : Type u) (ρ : Type v) := Outcome (Queue α) (Event α) ρ

abbrev Blocking (α : Type u) (ρ : Type v) := Outcome (Queue α) (ChannelEntry α) ρ

def empty (overflow : Overflow) (bound : Nat) : Queue α :=
  { bound := bound
    overflow := overflow
    departed := 0
    items := []
    senderAlive := true
    receiverAlive := true }

/-- How many elements have ever entered the queue. -/
def accepted (queue : Queue α) : Nat :=
  queue.departed + queue.items.length

/-- One of the ends was dropped. -/
def closed (queue : Queue α) : Bool :=
  !(queue.senderAlive && queue.receiverAlive)

/-- One of the ends is still there. -/
def present (queue : Queue α) : Bool :=
  queue.senderAlive || queue.receiverAlive

def append (queue : Queue α) (value : α) : Queue α :=
  { queue with items := queue.items ++ [value] }

def removeOldest (queue : Queue α) : Queue α :=
  { queue with departed := queue.departed + 1, items := queue.items.tail }

/-! Without waiting. -/

/-- Without a receiver nothing is taken.  A full queue hands the value back, or
loses its oldest element to it. -/
def trySend (queue : Queue α) (value : α) : Step α (Except (TrySendError α) Unit) :=
  if queue.receiverAlive = false then ⟨.error (.closed value), queue, []⟩
  else if queue.items.length < queue.bound then
    ⟨.ok (), queue.append value, [.notified .receiver]⟩
  else
    match queue.overflow, queue.items with
    | .overwrite, oldest :: _ =>
        { result := .ok ()
          state := queue.removeOldest.append value
          log :=
            [.destroyed oldest, .noted (.oldestOverwritten queue.departed),
              .notified .receiver] }
    | _, _ => ⟨.error (.full value), queue, []⟩

def tryReceive (queue : Queue α) : Step α (Except TryReceiveError α) :=
  match queue.items with
  | item :: _ => ⟨.ok item, queue.removeOldest, [.notified .sender]⟩
  | [] => ⟨.error (if queue.senderAlive then .empty else .closed), queue, []⟩

/-- The value that an arriving one displaces is destroyed. -/
def receiveInto (queue : Queue α) (register : α) : Step α (Status × α) :=
  match queue.items with
  | item :: _ =>
      { result := (.success, item)
        state := queue.removeOldest
        log := [.notified .sender, .destroyed register] }
  | [] =>
      ⟨(if queue.senderAlive then .channelEmpty else .channelClosed, register), queue, []⟩

def sendNext (queue : Queue α) : List α → Step α Unit
  | [] => ⟨(), queue, []⟩
  | value :: _ =>
      if queue.senderAlive then (queue.trySend value).mapResult fun _ => ()
      else ⟨(), queue, []⟩

/-- Receives up to `count` elements, and sends a value of the feed after each. -/
def drainFor : Nat → Queue α → List α → Step α (List α)
  | 0, queue, _ => ⟨[], queue, []⟩
  | count + 1, queue, feed =>
      let taken := queue.tryReceive
      match taken.result with
      | .error _ => ⟨[], taken.state, taken.log⟩
      | .ok value =>
          let fed := taken.state.sendNext feed
          let rest := drainFor count fed.state feed.tail
          ⟨value :: rest.result, rest.state, taken.log ++ fed.log ++ rest.log⟩

def describe (queue : Queue α) (name : String) : Text.Record :=
  { name := name
    fields :=
      [("closed", Text.Record.ofBool queue.closed),
        ("len", Text.Record.ofNat queue.items.length),
        ("capacity", Text.Record.ofNat queue.bound)] }

/-- Without a limit, receives until the queue is empty. -/
def drain (queue : Queue α) (limit : Option Nat) (feed : List α) : Step α (Drained α) :=
  let most := queue.items.length + feed.length
  let ended := drainFor (min (limit.getD most) most) queue feed
  { result :=
      { items := ended.result
        hintBefore := queue.items.length
        shownBefore :=
          { name := "Drain", fields := [("len", Text.Record.ofNat queue.items.length)] }
        hintAfter := ended.state.items.length }
    state := ended.state
    log := ended.log }

/-- Whoever leaves last takes what is left along, oldest first. -/
def freeIfAbandoned (queue : Queue α) : Step α Unit :=
  if queue.present then ⟨(), queue, []⟩
  else
    { result := ()
      state := { queue with departed := queue.accepted, items := [] }
      log :=
        queue.items.map .destroyed ++
          if queue.items.isEmpty then [] else [.noted (.ringFreed queue.items.length)] }

/-- What dropping an end leads to, once the end is gone. -/
def afterDrop (queue : Queue α) : Step α Unit :=
  let freed := queue.freeIfAbandoned
  { freed with log := [.notified .receiver, .notified .sender] ++ freed.log }

def dropSender (queue : Queue α) : Step α Unit :=
  { queue with senderAlive := false }.afterDrop

def dropReceiver (queue : Queue α) : Step α Unit :=
  { queue with receiverAlive := false }.afterDrop

def perform (queue : Queue α) : Action α → Step α (Answer α)
  | .trySend value =>
      if queue.senderAlive then
        (queue.trySend value).mapResult fun
          | .ok () => .done
          | .error error => .notSent error
      else ⟨.gone, queue, []⟩
  | .tryReceive =>
      if queue.receiverAlive then
        queue.tryReceive.mapResult fun
          | .ok value => .received value
          | .error error => .notReceived error
      else ⟨.gone, queue, []⟩
  | .receiveInto register =>
      if queue.receiverAlive then
        (queue.receiveInto register).mapResult fun (status, content) =>
          .register status content
      else ⟨.gone, queue, []⟩
  | .drain limit feed =>
      if queue.receiverAlive then (queue.drain limit feed).mapResult .drained
      else ⟨.gone, queue, []⟩
  | .dropSender =>
      if queue.senderAlive then queue.dropSender.mapResult fun _ => .done
      else ⟨.gone, queue, []⟩
  | .dropReceiver =>
      if queue.receiverAlive then queue.dropReceiver.mapResult fun _ => .done
      else ⟨.gone, queue, []⟩
  | .describe =>
      { result :=
          .described
            (if queue.senderAlive then some (queue.describe "Sender") else none)
            (if queue.receiverAlive then some (queue.describe "Receiver") else none)
        state := queue
        log := [] }
  | .unknown _ => ⟨.refused, queue, []⟩

/-- What the ends report: the length of the queue, and whether the other end is
still there. -/
def reports (queue : Queue α) : EndReports :=
  { sender :=
      if queue.senderAlive then
        some
          { length := queue.items.length
            freeSlots := queue.bound - queue.items.length
            isEmpty := queue.items.isEmpty
            isFull := queue.items.length == queue.bound
            isClosed := !queue.receiverAlive }
      else none
    receiver :=
      if queue.receiverAlive then
        some
          { length := queue.items.length
            isEmpty := queue.items.isEmpty
            isClosed := !queue.senderAlive }
      else none }

/-! With waiting. -/

def ready (queue : Queue α) : Side → Bool
  | .sender => decide (queue.items.length < queue.bound) || queue.closed
  | .receiver => !queue.items.isEmpty || queue.closed

/-- A peer may do everything but drop the end that waits. -/
def permits (blocked : Side) : Action α → Bool
  | .dropSender => blocked == .receiver
  | .dropReceiver => blocked == .sender
  | _ => true

def performAsPeer (blocked : Side) (queue : Queue α) (action : Action α) : Blocking α Unit :=
  let step := if permits blocked action then queue.perform action else ⟨.refused, queue, []⟩
  { result := ()
    state := step.state
    log := step.log.map .event ++ [.acted action step.result step.state.reports] }

def performGroup (blocked : Side) (queue : Queue α) : List (Action α) → Blocking α Unit
  | [] => ⟨(), queue, []⟩
  | action :: rest =>
      (performAsPeer blocked queue action).andThen fun _ queue =>
        performGroup blocked queue rest

def await (blocked : Side) (queue : Queue α) (group : List (Action α)) : Blocking α Unit :=
  let acted := performGroup blocked queue group
  { acted with
    log :=
      .waiting blocked (queue.ready blocked) :: acted.log ++
        [.resumed blocked (acted.state.ready blocked)] }

/-- Waits until the queue has room or the receiver is gone.  When nobody is left to
act, the receiver goes. -/
def send (queue : Queue α) (value : α) (script : List (List (Action α))) :
    Blocking α (Except (SendError α) Unit) :=
  let tried := (queue.trySend value).mapLog fun log => log.map .event
  match tried.result, script with
  | .ok (), _ => { tried with result := .ok () }
  | .error (.closed value), _ => { tried with result := .error ⟨value⟩ }
  | .error (.full value), [] =>
      (await .sender queue [.dropReceiver]).mapResult fun _ => .error ⟨value⟩
  | .error (.full value), group :: rest =>
      (await .sender queue group).andThen fun _ queue => queue.send value rest

/-- Waits until the queue has an element or the sender is gone.  When nobody is left
to act, the sender goes. -/
def receive (queue : Queue α) (script : List (List (Action α))) :
    Blocking α (Except ReceiveError α) :=
  let tried := queue.tryReceive.mapLog fun log => log.map .event
  match tried.result, script with
  | .ok value, _ => { tried with result := .ok value }
  | .error .empty, [] =>
      (await .receiver queue [.dropSender]).mapResult fun _ => .error .closed
  | .error .empty, group :: rest =>
      (await .receiver queue group).andThen fun _ queue => queue.receive rest
  | .error _, _ => { tried with result := .error .closed }

def call (queue : Queue α) : Call α → Blocking α (Reply α)
  | .act action =>
      ((queue.perform action).mapResult .plain).mapLog fun log => log.map .event
  | .send value script =>
      if queue.senderAlive then (queue.send value script).mapResult .sent
      else ⟨.plain .gone, queue, []⟩
  | .receive script =>
      if queue.receiverAlive then (queue.receive script).mapResult .received
      else ⟨.plain .gone, queue, []⟩

/-! What the operations come to, case by case. -/

variable {queue : Queue α} {value item : α} {rest : List α}

theorem trySend_of_gone (gone : queue.receiverAlive = false) (value : α) :
    queue.trySend value = ⟨.error (.closed value), queue, []⟩ := by
  simp [trySend, gone]

theorem trySend_of_room (alive : queue.receiverAlive = true)
    (room : queue.items.length < queue.bound) (value : α) :
    queue.trySend value = ⟨.ok (), queue.append value, [.notified .receiver]⟩ := by
  simp [trySend, alive, room]

theorem trySend_of_full (alive : queue.receiverAlive = true)
    (full : queue.bound ≤ queue.items.length)
    (waits : queue.overflow = .wait ∨ queue.items = []) (value : α) :
    queue.trySend value = ⟨.error (.full value), queue, []⟩ := by
  have notRoomy : ¬queue.items.length < queue.bound := by omega
  simp only [trySend, alive, Bool.true_eq_false, if_false, if_neg notRoomy]
  rcases waits with waits | items
  · rw [waits]
  · cases overflow : queue.overflow <;> simp only [items]

theorem trySend_overwriting (alive : queue.receiverAlive = true)
    (full : queue.bound ≤ queue.items.length) (overwrites : queue.overflow = .overwrite)
    (items : queue.items = item :: rest) (value : α) :
    queue.trySend value =
      { result := .ok ()
        state := queue.removeOldest.append value
        log :=
          [.destroyed item, .noted (.oldestOverwritten queue.departed),
            .notified .receiver] } := by
  have notRoomy : ¬queue.items.length < queue.bound := by omega
  simp only [trySend, alive, Bool.true_eq_false, if_false, if_neg notRoomy, overwrites]
  rw [items]

theorem trySend_cases (queue : Queue α) (value : α) :
    (queue.receiverAlive = false ∧ queue.trySend value = ⟨.error (.closed value), queue, []⟩) ∨
      (queue.receiverAlive = true ∧ queue.items.length < queue.bound ∧
        queue.trySend value = ⟨.ok (), queue.append value, [.notified .receiver]⟩) ∨
      (∃ oldest rest, queue.receiverAlive = true ∧ queue.bound ≤ queue.items.length ∧
        queue.overflow = .overwrite ∧ queue.items = oldest :: rest ∧ queue.trySend value =
          { result := .ok ()
            state := queue.removeOldest.append value
            log :=
              [.destroyed oldest, .noted (.oldestOverwritten queue.departed),
                .notified .receiver] }) ∨
      (queue.receiverAlive = true ∧ queue.bound ≤ queue.items.length ∧
        (queue.overflow = .wait ∨ queue.items = []) ∧
        queue.trySend value = ⟨.error (.full value), queue, []⟩) := by
  cases alive : queue.receiverAlive with
  | false => exact .inl ⟨rfl, trySend_of_gone alive value⟩
  | true =>
      by_cases room : queue.items.length < queue.bound
      · exact .inr (.inl ⟨rfl, room, trySend_of_room alive room value⟩)
      · have full : queue.bound ≤ queue.items.length := Nat.le_of_not_lt room
        cases overflow : queue.overflow with
        | wait =>
            exact .inr (.inr (.inr ⟨rfl, full, .inl rfl,
              trySend_of_full alive full (.inl overflow) value⟩))
        | overwrite =>
            cases items : queue.items with
            | nil =>
                exact .inr (.inr (.inr ⟨rfl, items ▸ full, .inr rfl,
                  trySend_of_full alive full (.inr items) value⟩))
            | cons oldest rest =>
                exact .inr (.inr (.inl ⟨oldest, rest, rfl, items ▸ full, rfl, rfl,
                  trySend_overwriting alive full overflow items value⟩))

/-- A queue that overwrites has room for every value. -/
theorem trySend_overwriting_result (overwrites : queue.overflow = .overwrite)
    (roomy : 0 < queue.bound) (value : α) :
    (queue.trySend value).result =
      if queue.receiverAlive then .ok () else .error (.closed value) := by
  obtain ⟨gone, tried⟩ | ⟨alive, _, tried⟩ | ⟨_, _, alive, _, _, _, tried⟩ |
      ⟨_, full, waits | none, _⟩ := queue.trySend_cases value
  · simp [tried, gone]
  · simp [tried, alive]
  · simp [tried, alive]
  · rw [overwrites] at waits
    cases waits
  · rw [none, List.length_nil] at full
    omega

/-- A failed send hands back what it was given and changes nothing. -/
theorem trySend_rejected {error : TrySendError α}
    (rejected : (queue.trySend value).result = .error error) :
    error.value = value ∧ queue.trySend value = ⟨.error error, queue, []⟩ := by
  obtain ⟨_, tried⟩ | ⟨_, _, tried⟩ | ⟨_, _, _, _, _, _, tried⟩ | ⟨_, _, _, tried⟩ :=
    queue.trySend_cases value
  all_goals
    rw [tried] at rejected ⊢
    cases rejected
  · exact ⟨rfl, rfl⟩
  · exact ⟨rfl, rfl⟩

theorem tryReceive_of_nil (items : queue.items = []) :
    queue.tryReceive =
      ⟨.error (if queue.senderAlive then .empty else .closed), queue, []⟩ := by
  simp [tryReceive, items]

theorem tryReceive_of_cons (items : queue.items = item :: rest) :
    queue.tryReceive = ⟨.ok item, queue.removeOldest, [.notified .sender]⟩ := by
  simp [tryReceive, items]

theorem receiveInto_of_nil (items : queue.items = []) (register : α) :
    queue.receiveInto register =
      ⟨(if queue.senderAlive then .channelEmpty else .channelClosed, register), queue, []⟩ := by
  simp [receiveInto, items]

theorem receiveInto_of_cons (items : queue.items = item :: rest) (register : α) :
    queue.receiveInto register =
      ⟨(.success, item), queue.removeOldest, [.notified .sender, .destroyed register]⟩ := by
  simp [receiveInto, items]

theorem receiveInto_state (queue : Queue α) (register : α) :
    (queue.receiveInto register).state = queue.tryReceive.state := by
  cases items : queue.items with
  | nil => rw [receiveInto_of_nil items, tryReceive_of_nil items]
  | cons item rest => rw [receiveInto_of_cons items, tryReceive_of_cons items]

theorem tryReceive_not_skipped (queue : Queue α) :
    queue.tryReceive.result ≠ .error .skipped := by
  cases items : queue.items with
  | nil => cases sender : queue.senderAlive <;> simp [tryReceive_of_nil items, sender]
  | cons item rest => simp [tryReceive_of_cons items]

theorem send_of_accepted {script : List (List (Action α))}
    (tried : (queue.trySend value).result = .ok ()) :
    queue.send value script =
      ⟨.ok (), (queue.trySend value).state, (queue.trySend value).log.map .event⟩ := by
  unfold send
  cases script <;> simp [tried, Outcome.mapLog]

theorem send_of_closed {returned : α} {script : List (List (Action α))}
    (tried : (queue.trySend value).result = .error (.closed returned)) :
    queue.send value script = ⟨.error ⟨returned⟩, queue, []⟩ := by
  unfold send
  rw [(trySend_rejected tried).2]
  cases script <;> rfl

theorem send_of_full_nil {returned : α}
    (tried : (queue.trySend value).result = .error (.full returned)) :
    queue.send value [] =
      (queue.await .sender [.dropReceiver]).mapResult fun _ => .error ⟨returned⟩ := by
  unfold send
  rw [(trySend_rejected tried).2]
  rfl

theorem send_of_full_cons {returned : α} {group : List (Action α)}
    {script : List (List (Action α))}
    (tried : (queue.trySend value).result = .error (.full returned)) :
    queue.send value (group :: script) =
      (queue.await .sender group).andThen fun _ queue => queue.send returned script := by
  conv => lhs; unfold send
  rw [(trySend_rejected tried).2]
  rfl

theorem receive_of_cons {script : List (List (Action α))} (items : queue.items = item :: rest) :
    queue.receive script = ⟨.ok item, queue.removeOldest, [.event (.notified .sender)]⟩ := by
  unfold receive
  rw [tryReceive_of_cons items]
  cases script <;> rfl

theorem receive_of_closed {script : List (List (Action α))} (items : queue.items = [])
    (gone : queue.senderAlive = false) :
    queue.receive script = ⟨.error .closed, queue, []⟩ := by
  unfold receive
  rw [tryReceive_of_nil items, gone]
  cases script <;> rfl

theorem receive_of_empty_nil (items : queue.items = []) (alive : queue.senderAlive = true) :
    queue.receive [] =
      (queue.await .receiver [.dropSender]).mapResult fun _ => .error .closed := by
  unfold receive
  rw [tryReceive_of_nil items, alive]
  rfl

theorem receive_of_empty_cons {group : List (Action α)} {script : List (List (Action α))}
    (items : queue.items = []) (alive : queue.senderAlive = true) :
    queue.receive (group :: script) =
      (queue.await .receiver group).andThen fun _ queue => queue.receive script := by
  conv => lhs; unfold receive
  rw [tryReceive_of_nil items, alive]
  rfl

end Queue

/-! One call after another. -/

/-- One call of a run, and all that its caller gets to see. -/
structure Turn (α : Type u) where
  call : Call α
  reply : Reply α
  log : List (ChannelEntry α)
  reports : EndReports

namespace Channel

def turns (channel : Channel α) : List (Call α) → List (Turn α)
  | [] => []
  | call :: rest =>
      let called := channel.call call
      ⟨call, called.result, called.log, called.state.reports⟩ :: called.state.turns rest

/-- The channel after some calls. -/
def after (channel : Channel α) (calls : List (Call α)) : Channel α :=
  calls.foldl (fun channel call => (channel.call call).state) channel

@[simp] theorem after_cons (channel : Channel α) (call : Call α) (rest : List (Call α)) :
    channel.after (call :: rest) = (channel.call call).state.after rest := rfl

theorem after_append (channel : Channel α) (first second : List (Call α)) :
    channel.after (first ++ second) = (channel.after first).after second :=
  List.foldl_append

theorem turns_append (channel : Channel α) (first second : List (Call α)) :
    channel.turns (first ++ second) =
      channel.turns first ++ (channel.after first).turns second := by
  induction first generalizing channel with
  | nil => rfl
  | cons call rest ih => simp only [List.cons_append, turns, ih, after_cons]

end Channel

namespace Queue

def turns (queue : Queue α) : List (Call α) → List (Turn α)
  | [] => []
  | call :: rest =>
      let called := queue.call call
      ⟨call, called.result, called.log, called.state.reports⟩ :: called.state.turns rest

def after (queue : Queue α) (calls : List (Call α)) : Queue α :=
  calls.foldl (fun queue call => (queue.call call).state) queue

theorem turns_append (queue : Queue α) (first second : List (Call α)) :
    queue.turns (first ++ second) = queue.turns first ++ (queue.after first).turns second := by
  induction first generalizing queue with
  | nil => rfl
  | cons call rest ih =>
      simp only [List.cons_append, turns, ih]
      rfl

end Queue

end Handoff.Ring
