import Handoff.Proofs.Ring.Occupancy

namespace Handoff.Ring

/-! What the ends remember of each other cannot be told from outside.  Two channels that
differ only in that answer alike for ever, and an end does what it would do if it looked
every time.
-/

namespace Channel

/-! The same operations without a memory. -/

/-- Sends without waiting, and looks at the receive cursor every time. -/
def trySendAnew (channel : Channel α) (value : α) : Step α (Except (TrySendError α) Unit) :=
  if channel.closed then ⟨.error (.closed value), channel, []⟩
  else
    let looked := { channel with receiveCache := channel.receiveCursor.position }
    if looked.seemsFull then
      match looked.overflow with
      | .wait => ⟨.error (.full value), looked, []⟩
      | .overwrite =>
          (looked.discardOldest.andThen fun _ room => room.publish value).mapResult .ok
    else (looked.publish value).mapResult .ok

/-- Takes the oldest element, and looks at the send cursor every time. -/
def takeOldestAnew (channel : Channel α) : Step α (Except Absence α) :=
  if channel.sendCursor = channel.receiveCursor then
    ⟨.error (if channel.closed then .closed else .empty), channel, []⟩
  else
    let looked := { channel with sendCache := channel.sendCursor }
    let cursor := looked.receiveCursor
    let (value, memory) := looked.take cursor
    match value with
    | some value =>
        { result := .ok value
          state := looked.withMemory (memory.moveReceive cursor.advance)
          log := [.notified .sender] }
    | none => ⟨.error .empty, looked.withMemory memory, []⟩

def tryReceiveAnew (channel : Channel α) : Step α (Except TryReceiveError α) :=
  channel.takeOldestAnew.mapResult fun
    | .ok value => .ok value
    | .error absence => .error absence.toError

/-- Two channels differ at most in what their ends remember of each other, and in slots
that hold no element. -/
structure Agrees (first second : Channel α) : Prop where
  mask : first.mask = second.mask
  overflow : first.overflow = second.overflow
  sendCursor : first.sendCursor = second.sendCursor
  receiveCursor : first.receiveCursor = second.receiveCursor
  closed : first.closed = second.closed
  senderAlive : first.senderAlive = second.senderAlive
  receiverAlive : first.receiverAlive = second.receiverAlive
  contents : first.contents = second.contents

/-- The same answer and the same events, and channels that agree again. -/
structure Alike (first second : Outcome (Channel α) ε ρ) : Prop where
  result : first.result = second.result
  log : first.log = second.log
  state : first.state.Agrees second.state

variable {channel first second : Channel α} {queue other : Queue α}

/-! A channel shows the queue that it holds. -/

theorem Holds.peek_eq (holds : channel.Holds queue) {cursor : Cursor} {offset : Nat}
    (here : cursor.toNat = queue.departed + offset) (inside : offset < queue.items.length) :
    channel.peek cursor = some queue.items[offset] := by
  have present : placed queue.departed queue.items cursor.toNat = some queue.items[offset] := by
    simp [placed, here, inside]
  rw [Memory.peek, holds.slot_eq, holds.hold.stored _ _ present]

theorem Holds.contents_eq (holds : channel.Holds queue) : channel.contents = queue.items := by
  have numbers := holds.unread_toNat
  have peeked : channel.unread.map channel.peek = queue.items.map some := by
    apply List.ext_getElem
    · simpa using congrArg List.length numbers
    · intro offset shown stored
      rw [List.length_map] at shown stored
      have here : channel.unread[offset].toNat = queue.departed + offset := by
        have counted := List.getElem_of_eq numbers (by simpa using shown)
        simpa using counted
      rw [List.getElem_map, List.getElem_map, holds.peek_eq here stored]
  calc channel.contents
    _ = (channel.unread.map channel.peek).filterMap id := by
      rw [List.filterMap_map]
      rfl
    _ = queue.items := by
      rw [peeked, List.filterMap_map]
      exact List.filterMap_some

theorem Holds.agrees (holds : first.Holds queue) (same : second.Holds queue) :
    first.Agrees second where
  mask := UInt64.toNat_inj.mp (holds.mask.toNat_eq.trans same.mask.toNat_eq.symm)
  overflow := holds.overflow.trans same.overflow.symm
  sendCursor := Cursor.ext_toNat (holds.newest.trans same.newest.symm)
  receiveCursor := Cursor.ext_toNat (holds.oldest.trans same.oldest.symm)
  closed := holds.closed.trans same.closed.symm
  senderAlive := holds.senderAlive.trans same.senderAlive.symm
  receiverAlive := holds.receiverAlive.trans same.receiverAlive.symm
  contents := holds.contents_eq.trans same.contents_eq.symm

theorem Agrees.queue_eq (agrees : first.Agrees second) (holds : first.Holds queue)
    (same : second.Holds other) : queue = other := by
  have bound : queue.bound = other.bound := by
    rw [← holds.mask.toNat_eq, agrees.mask, same.mask.toNat_eq]
  have overflow : queue.overflow = other.overflow := by
    rw [← holds.overflow, agrees.overflow, same.overflow]
  have departed : queue.departed = other.departed := by
    rw [← holds.oldest, agrees.receiveCursor, same.oldest]
  have items : queue.items = other.items := by
    rw [← holds.contents_eq, agrees.contents, same.contents_eq]
  have sender : queue.senderAlive = other.senderAlive := by
    rw [← holds.senderAlive, agrees.senderAlive, same.senderAlive]
  have receiver : queue.receiverAlive = other.receiverAlive := by
    rw [← holds.receiverAlive, agrees.receiverAlive, same.receiverAlive]
  cases queue
  cases other
  simp only [Queue.mk.injEq]
  exact ⟨bound, overflow, departed, items, sender, receiver⟩

theorem alike_of_mirrors {actual anew : Step α ρ} {expected : Queue.Step α ρ}
    (mirrors : Mirrors Holds actual expected) (same : Mirrors Holds anew expected) :
    Alike actual anew :=
  ⟨mirrors.result.trans same.result.symm, mirrors.log.trans same.log.symm,
    mirrors.state.agrees same.state⟩

/-! Looking every time. -/

theorem trySendAnew_eq (opened : channel.closed = false) (value : α) :
    channel.trySendAnew value =
      ({ channel with receiveCache := channel.receiveCursor.position } : Channel α).trySend
        value := by
  have refreshed : ({ channel with receiveCache := channel.receiveCursor.position } :
      Channel α).refreshReceiveCache =
        { channel with receiveCache := channel.receiveCursor.position } := by
    unfold Channel.refreshReceiveCache
    split <;> rfl
  rw [trySendAnew, Channel.trySend, opened, refreshed]
  rfl

theorem Holds.trySendAnew (holds : channel.Holds queue) (alive : queue.senderAlive = true)
    (value : α) (few : queue.accepted < Cursor.horizon) :
    Mirrors Holds (channel.trySendAnew value) (queue.trySend value) := by
  cases closed : channel.closed with
  | false =>
      rw [trySendAnew_eq closed]
      exact holds.lookAtReceiver.trySend alive value fun _ => few
  | true =>
      have same : channel.trySendAnew value = channel.trySend value := by
        simp only [Channel.trySendAnew, Channel.trySend, closed, if_true]
      rw [same]
      exact holds.trySend alive value fun _ => few

theorem takeOldestAnew_eq (stocked : channel.sendCursor ≠ channel.receiveCursor) :
    channel.takeOldestAnew =
      ({ channel with sendCache := channel.sendCursor } : Channel α).takeOldest := by
  have refreshed : ({ channel with sendCache := channel.sendCursor } :
      Channel α).refreshSendCache = .ok { channel with sendCache := channel.sendCursor } := by
    unfold Channel.refreshSendCache
    rw [if_neg stocked]
    split <;> rfl
  rw [takeOldestAnew, if_neg stocked, Channel.takeOldest]
  split
  · next absent => cases refreshed.symm.trans absent
  · next looked =>
      cases refreshed.symm.trans looked
      rfl

theorem Holds.tryReceiveAnew (holds : channel.Holds queue) (alive : queue.receiverAlive = true) :
    Mirrors Holds channel.tryReceiveAnew queue.tryReceive := by
  by_cases drained : channel.sendCursor = channel.receiveCursor
  · have absent := holds.seemsStocked_of_nil (holds.cursors_eq_iff.mp drained)
    have refreshed : channel.refreshSendCache =
        .error (if channel.closed then .closed else .empty) := by
      rw [Channel.refreshSendCache, absent, if_neg Bool.false_ne_true, if_pos drained]
    have left : channel.takeOldest =
        ⟨.error (if channel.closed then .closed else .empty), channel, []⟩ := by
      rw [takeOldest, refreshed]
    have same : channel.takeOldestAnew = channel.takeOldest := by
      rw [left, takeOldestAnew, if_pos drained]
    have still : channel.tryReceiveAnew = channel.tryReceive :=
      congrArg (Outcome.mapResult _) same
    rw [still]
    exact holds.tryReceive alive
  · rw [Channel.tryReceiveAnew, takeOldestAnew_eq drained]
    exact holds.lookAtSender.tryReceive alive

/-! Two channels that both ends have left. -/

theorem turns_of_absent (senderGone : first.senderAlive = false)
    (receiverGone : first.receiverAlive = false) (otherSenderGone : second.senderAlive = false)
    (otherReceiverGone : second.receiverAlive = false) (calls : List (Call α)) :
    first.turns calls = second.turns calls := by
  induction calls with
  | nil => rfl
  | cons call rest ih =>
      obtain ⟨reply, absent⟩ := call_of_absent call
      have reports : first.reports = second.reports := by
        simp [Channel.reports, senderGone, receiverGone, otherSenderGone, otherReceiverGone]
      simp only [turns, absent first senderGone receiverGone,
        absent second otherSenderGone otherReceiverGone, reports, ih]

/-! Whole runs. -/

theorem turns_after_create {overflow : Overflow} {requested bound : Nat} {created : Step α Unit}
    (made : create overflow requested = .ok created)
    (size : ringSize? requested = some (bound + 1)) (calls further : List (Call α))
    (few : (Ledger.ofTurns (created.state.turns (calls ++ further))).accepted.length <
      Cursor.horizon) :
    (created.state.after calls).turns further =
      ((Queue.empty overflow bound).after calls).turns further := by
  obtain ⟨whole, -, -⟩ := turns_of_size made size (calls ++ further) (Nat.le_of_lt few)
  obtain ⟨begun, -, -⟩ := turns_of_size made size calls (Nat.le_of_lt (few_before few))
  rw [turns_append, Queue.turns_append, begun] at whole
  exact List.append_cancel_left whole

/-- Two channels with the same cursors, contents and ends answer alike for ever, whatever
their ends remember of each other.  An end that looked every time would do the same. -/
theorem caches_unobservable {overflow otherOverflow : Overflow} {requested otherRequested : Nat}
    {created otherCreated : Step α Unit} (made : create overflow requested = .ok created)
    (otherMade : create otherOverflow otherRequested = .ok otherCreated)
    (calls otherCalls further : List (Call α))
    (few : (Ledger.ofTurns (created.state.turns (calls ++ further))).accepted.length <
      Cursor.horizon)
    (otherFew :
      (Ledger.ofTurns (otherCreated.state.turns (otherCalls ++ further))).accepted.length <
        Cursor.horizon)
    (agrees : (created.state.after calls).Agrees (otherCreated.state.after otherCalls)) :
    (created.state.after calls).turns further =
        (otherCreated.state.after otherCalls).turns further ∧
      ((created.state.after calls).senderAlive = true → ∀ value,
        Alike ((created.state.after calls).trySend value)
          ((created.state.after calls).trySendAnew value)) ∧
      ((created.state.after calls).receiverAlive = true →
        Alike (created.state.after calls).tryReceive
          (created.state.after calls).tryReceiveAnew) := by
  obtain ⟨bound, size, -⟩ := holds_of_create made
  obtain ⟨otherBound, otherSize, -⟩ := holds_of_create otherMade
  obtain ⟨-, represents, balances⟩ :=
    turns_of_size made size calls (Nat.le_of_lt (few_before few))
  obtain ⟨-, otherRepresents, -⟩ :=
    turns_of_size otherMade otherSize otherCalls (Nat.le_of_lt (few_before otherFew))
  refine ⟨?_, ?_, ?_⟩
  · cases there : ((Queue.empty overflow bound).after calls).present with
    | true =>
        have otherThere : ((Queue.empty otherOverflow otherBound).after otherCalls).present =
            true := by
          rw [← there, Queue.present, Queue.present, ← represents.senderAlive,
            ← represents.receiverAlive, agrees.senderAlive, agrees.receiverAlive,
            otherRepresents.senderAlive, otherRepresents.receiverAlive]
        have same := agrees.queue_eq (represents.holds there) (otherRepresents.holds otherThere)
        rw [turns_after_create made size calls further few,
          turns_after_create otherMade otherSize otherCalls further otherFew, same]
    | false =>
        simp only [Queue.present, ← represents.senderAlive, ← represents.receiverAlive,
          Bool.or_eq_false_iff] at there
        obtain ⟨senderGone, receiverGone⟩ := there
        exact turns_of_absent senderGone receiverGone (agrees.senderAlive ▸ senderGone)
          (agrees.receiverAlive ▸ receiverGone) further
  · intro alive value
    rw [represents.senderAlive] at alive
    have holds := @Represents.holds_of_alive _ _ _ .sender represents alive
    have room : ((Queue.empty overflow bound).after calls).accepted < Cursor.horizon := by
      rw [← balances.accepted_length]
      exact few_before few
    exact alike_of_mirrors (holds.trySend alive value fun _ => room)
      (holds.trySendAnew alive value room)
  · intro alive
    rw [represents.receiverAlive] at alive
    have holds := @Represents.holds_of_alive _ _ _ .receiver represents alive
    exact alike_of_mirrors (holds.tryReceive alive) (holds.tryReceiveAnew alive)

/-- The receiver took the first element as soon as it was there, or after two more had been
sent; only then does it know of them. -/
theorem early_or_late_receive :
    let early : List (Call Nat) :=
      [.act (.trySend 1), .act .tryReceive, .act (.trySend 2), .act (.trySend 3)]
    let late : List (Call Nat) :=
      [.act (.trySend 1), .act (.trySend 2), .act (.trySend 3), .act .tryReceive]
    let further : List (Call Nat) :=
      [.act (.trySend 4), .act (.trySend 5), .act .tryReceive, .act (.drain none []),
        .act .dropSender, .receive []]
    ((ofSize .wait 4).after early).sendCache ≠ ((ofSize .wait 4).after late).sendCache ∧
      ((ofSize .wait 4).after early).Agrees ((ofSize .wait 4).after late) ∧
      ((ofSize .wait 4).after early).turns further =
        ((ofSize .wait 4).after late).turns further := by
  intro early late further
  have agrees : ((ofSize .wait 4).after early).Agrees ((ofSize .wait 4).after late) := by
    constructor <;> decide +kernel
  obtain ⟨same, -⟩ := @caches_unobservable Nat .wait .wait 4 4
    ⟨(), ofSize .wait 4, [.noted (.ringCreated 4 4 false)]⟩
    ⟨(), ofSize .wait 4, [.noted (.ringCreated 4 4 false)]⟩ rfl rfl early late further
    (by decide +kernel) (by decide +kernel) agrees
  exact ⟨by decide +kernel, agrees, same⟩

end Channel

end Handoff.Ring
