import Handoff.Proofs.Ring.Representation
import Handoff.Ring.Interleaving

namespace Handoff.Ring

/-! A thread that is never interrupted.  Access by access it does what the operation
of the channel does in one go: no exchange of a cursor fails, so it never has to look
again and never misses an element.
-/

namespace Interleaving

def stepsOfSender : Nat → Interleaving α → Interleaving α
  | 0, run => run
  | count + 1, run => stepsOfSender count run.stepSender

def stepsOfReceiver : Nat → Interleaving α → Interleaving α
  | 0, run => run
  | count + 1, run => stepsOfReceiver count run.stepReceiver

/-- No send takes more than eight accesses. -/
def sendAlone (run : Interleaving α) (value : α) : Interleaving α :=
  stepsOfSender 8 (run.startSend value)

/-- No receive takes more than seven accesses. -/
def receiveAlone (run : Interleaving α) : Interleaving α :=
  stepsOfReceiver 7 run.startReceive

/-- What an operation leaves behind is what a run has come to. -/
structure Reaches (run : Interleaving α) (step : Channel.Step α ρ) : Prop where
  memory : run.memory = step.state.toMemory
  overflow : run.overflow = step.state.overflow
  receiveCache : run.receiveCache = step.state.receiveCache
  sendCache : run.sendCache = step.state.sendCache
  log : run.log.toList = step.log

variable {run : Interleaving α} {value item : α} {oldest : Cursor}

theorem stepsOfSender_idle {last : Option (Except (TrySendError α) Unit)}
    (idle : run.sending = .idle last) (count : Nat) : stepsOfSender count run = run := by
  induction count with
  | zero => rfl
  | succ count ih => rw [stepsOfSender, show run.stepSender = run by simp [stepSender, idle], ih]

theorem stepsOfReceiver_idle {last : Option (Except TryReceiveError α)}
    (idle : run.receiving = .idle last) (count : Nat) : stepsOfReceiver count run = run := by
  induction count with
  | zero => rfl
  | succ count ih =>
      rw [stepsOfReceiver, show run.stepReceiver = run by simp [stepReceiver, idle], ih]

/-- The last two accesses of every send that is accepted. -/
theorem stepsOfSender_write (stage : run.sending = .write value run.memory.sendCursor)
    (count : Nat) :
    stepsOfSender (count + 2) run =
      { run with
        memory :=
          (run.memory.write run.memory.sendCursor value).moveSend run.memory.sendCursor.advance
        sending := .idle (some (.ok ()))
        accepted := run.accepted.push value
        log := run.log.push (.notified .receiver) } := by
  rw [stepsOfSender, stepsOfSender]
  have written : run.stepSender =
      { run with
        memory := run.memory.write run.memory.sendCursor value
        sending := .publish value run.memory.sendCursor } := by
    simp [stepSender, stage]
  rw [written]
  exact stepsOfSender_idle rfl count

/-- The last accesses of every receive that gets an element. -/
theorem stepsOfReceiver_approach (here : run.memory.receiveCursor = oldest)
    (present : (run.memory.take oldest).1 = some item) (count : Nat) :
    stepsOfReceiver (count + 3) (run.approach oldest) =
      { run with
        memory := (run.memory.take oldest).2.moveReceive oldest.advance
        receiving := .idle (some (.ok item))
        received := run.received.push item
        log := run.log.push (.notified .sender) } := by
  have found : run.memory.slots.read (oldest.slot run.memory.mask) = some item := present
  cases policy : run.overflow with
  | wait =>
      rw [stepsOfReceiver, stepsOfReceiver]
      simp [approach, policy, stepReceiver, Memory.take, found, Memory.moveReceive,
        stepsOfReceiver_idle]
  | overwrite =>
      rw [stepsOfReceiver, stepsOfReceiver, stepsOfReceiver]
      simp [approach, policy, stepReceiver, Memory.exchangeReceive?, here, Memory.take, found,
        Memory.moveReceive, stepsOfReceiver_idle]

end Interleaving

open Interleaving

variable {channel : Channel α} {queue : Queue α}

theorem Channel.Holds.inspectAlone (holds : channel.Holds queue) (value : α) :
    let looked := { channel with receiveCache := channel.receiveCursor }
    let sent := (looked.discardOldest.andThen fun _ room => room.publish value).mapResult Except.ok
    let ended := stepsOfSender 5
      { ofChannel looked with sending := .inspect value channel.sendCursor }
    ended.Reaches (sent : Channel.Step α (Except (TrySendError α) Unit)) ∧
      ended.sending = .idle (some sent.result) := by
  intro looked sent ended
  have unclaimed := Cursor.isClaimed_of_le holds.oldest_le
  by_cases roomy : channel.receiveCursor.distanceTo channel.sendCursor < channel.mask
  · have route : ended = stepsOfSender 4
        { ofChannel looked with sending := .write value channel.sendCursor } := by
      rw [show ended = stepsOfSender 4 (stepSender _) from rfl]
      simp [ofChannel, stepSender, unclaimed, roomy, looked]
    have discarded : looked.discardOldest = ⟨(), looked, []⟩ := by
      simp [Channel.discardOldest, roomy, looked]
    simp only [route, sent, discarded]
    rw [stepsOfSender_write rfl]
    exact ⟨⟨rfl, rfl, rfl, rfl, rfl⟩, rfl⟩
  · let room := looked.discardOldest
    have route : ended = stepsOfSender 2
        { ofChannel room.state with
          sending := .write value channel.sendCursor
          discarded := ((channel.moveReceive channel.receiveCursor.advance).peek
            channel.receiveCursor).toArray
          log := room.log.toArray } := by
      rw [show ended = stepsOfSender 2 (stepSender (stepSender (stepSender _))) from rfl]
      simp [ofChannel, stepSender, unclaimed, roomy, looked, room, Memory.exchangeReceive?,
        Channel.discardOldest, Channel.withMemory]
      cases ((channel.moveReceive channel.receiveCursor.advance).take channel.receiveCursor).1 <;>
        simp
    have cursor : room.state.sendCursor = channel.sendCursor := by
      simp [room, looked, Channel.discardOldest, roomy, Channel.withMemory, Memory.take,
        Memory.moveReceive]
    rw [route, stepsOfSender_write (congrArg _ cursor.symm)]
    refine ⟨⟨rfl, rfl, rfl, rfl, ?_⟩, rfl⟩
    simp [sent, room, Channel.publish]

/-- The rest of a send, once the ring seemed full. -/
theorem Channel.Holds.refreshAlone (holds : channel.Holds queue) (value : α)
    (closed : channel.closed = false)
    (full : (channel.receiveCache.distanceTo channel.sendCursor == channel.mask) = true) :
    let ended := stepsOfSender 6
      { ofChannel channel with sending := .refresh value channel.sendCursor }
    ended.Reaches (channel.trySend value) ∧
      ended.sending = .idle (some (channel.trySend value).result) := by
  intro ended
  have position := holds.position_eq
  let looked := { channel with receiveCache := channel.receiveCursor }
  have refreshed : channel.refreshReceiveCache = looked := by
    simp [Channel.refreshReceiveCache, Channel.seemsFull, full, position, looked]
  have first : ended = stepsOfSender 5 (stepSender _) := rfl
  cases still : channel.receiveCursor.distanceTo channel.sendCursor == channel.mask with
  | false =>
      have route : ended = stepsOfSender 5
          { ofChannel looked with sending := .write value channel.sendCursor } := by
        rw [first]
        simp [ofChannel, stepSender, Interleaving.seemsFull, still, position, looked]
      have sent : channel.trySend value = (looked.publish value).mapResult .ok := by
        simp [Channel.trySend, closed, refreshed, Channel.seemsFull, still, looked]
      rw [route, stepsOfSender_write rfl, sent]
      exact ⟨⟨rfl, rfl, rfl, rfl, rfl⟩, rfl⟩
  | true =>
      cases policy : channel.overflow with
      | wait =>
          have route : ended = stepsOfSender 5 ((ofChannel looked).refuseSend (.full value)) := by
            rw [first]
            simp [ofChannel, stepSender, Interleaving.seemsFull, still, position, policy, looked,
              refuseSend]
          have sent : channel.trySend value = ⟨.error (.full value), looked, []⟩ := by
            simp [Channel.trySend, closed, refreshed, Channel.seemsFull, still, policy, looked]
          rw [route, stepsOfSender_idle rfl, sent]
          exact ⟨⟨rfl, rfl, rfl, rfl, rfl⟩, rfl⟩
      | overwrite =>
          have route : ended = stepsOfSender 5
              { ofChannel looked with sending := .inspect value channel.sendCursor } := by
            rw [first]
            simp [ofChannel, stepSender, Interleaving.seemsFull, still, position, policy, looked]
          have sent : channel.trySend value =
              (looked.discardOldest.andThen fun _ room => room.publish value).mapResult .ok := by
            simp [Channel.trySend, closed, refreshed, Channel.seemsFull, still, policy, looked]
          rw [route, sent]
          exact holds.inspectAlone value

/-- A send that is never interrupted is the send of the channel. -/
theorem Channel.Holds.sendAlone (holds : channel.Holds queue) (value : α) :
    ((ofChannel channel).sendAlone value).Reaches (channel.trySend value) ∧
      ((ofChannel channel).sendAlone value).sending =
        .idle (some (channel.trySend value).result) := by
  let start := (ofChannel channel).startSend value
  cases closed : channel.closed with
  | true =>
      have refused : start.stepSender = (ofChannel channel).refuseSend (.closed value) := by
        simp [start, startSend, ofChannel, stepSender, closed, refuseSend]
      have ended : (ofChannel channel).sendAlone value =
          (ofChannel channel).refuseSend (.closed value) := by
        rw [Interleaving.sendAlone, stepsOfSender, refused]
        exact stepsOfSender_idle rfl 7
      have sent : channel.trySend value = ⟨.error (.closed value), channel, []⟩ := by
        simp [Channel.trySend, closed]
      rw [ended, sent]
      exact ⟨⟨rfl, rfl, rfl, rfl, rfl⟩, rfl⟩
  | false =>
      have ended : (ofChannel channel).sendAlone value =
          stepsOfSender 6 start.stepSender.stepSender := rfl
      cases full : channel.receiveCache.distanceTo channel.sendCursor == channel.mask with
      | false =>
          have route : start.stepSender.stepSender =
              { ofChannel channel with sending := .write value channel.sendCursor } := by
            simp [start, startSend, ofChannel, stepSender, closed, Interleaving.seemsFull, full]
          have sent : channel.trySend value = (channel.publish value).mapResult .ok := by
            simp [Channel.trySend, closed, Channel.refreshReceiveCache, Channel.seemsFull, full]
          rw [ended, route, stepsOfSender_write rfl, sent]
          exact ⟨⟨rfl, rfl, rfl, rfl, rfl⟩, rfl⟩
      | true =>
          have route : start.stepSender.stepSender =
              { ofChannel channel with sending := .refresh value channel.sendCursor } := by
            simp [start, startSend, ofChannel, stepSender, closed, Interleaving.seemsFull, full]
          rw [ended, route]
          exact holds.refreshAlone value closed full

/-- The beginning of every receive. -/
theorem stepReceiver_readReceive (channel : Channel α) :
    (ofChannel channel).startReceive.stepReceiver =
      if channel.seemsStocked then (ofChannel channel).startReceive.approach channel.receiveCursor
      else { ofChannel channel with receiving := .readSend channel.receiveCursor } := rfl

theorem Channel.Holds.receiveAlone_of_nil (holds : channel.Holds queue)
    (alive : queue.receiverAlive = true) (items : queue.items = []) :
    (ofChannel channel).receiveAlone =
      (ofChannel channel).refuseReceive (if queue.senderAlive then .empty else .closed) := by
  let start := (ofChannel channel).startReceive
  have same := holds.cursors_eq_iff.mpr items
  have closed : channel.closed = !queue.senderAlive := by
    rw [holds.closed, Queue.closed, alive, Bool.and_true]
  have first : start.stepReceiver =
      { ofChannel channel with receiving := .readSend channel.receiveCursor } := by
    rw [stepReceiver_readReceive, holds.seemsStocked_of_nil items]
    rfl
  have second : start.stepReceiver.stepReceiver =
      { ofChannel channel with receiving := .readClosed channel.receiveCursor } := by
    rw [first]
    exact if_pos same
  have route : start.stepReceiver.stepReceiver.stepReceiver.stepReceiver =
      (ofChannel channel).refuseReceive (if queue.senderAlive then .empty else .closed) := by
    rw [second]
    cases sender : queue.senderAlive <;>
      simp [stepReceiver, ofChannel, closed, sender, same, refuseReceive]
  have ended : (ofChannel channel).receiveAlone =
      stepsOfReceiver 3 start.stepReceiver.stepReceiver.stepReceiver.stepReceiver := rfl
  rw [ended, route, stepsOfReceiver_idle rfl]

/-- Where there is an element, the receiver goes for it. -/
theorem Channel.Holds.receiveAlone_of_cons {item : α} {rest : List α}
    (holds : channel.Holds queue) (items : queue.items = item :: rest) :
    ∃ looked stage count, channel.refreshSendCache = .ok looked ∧
      (looked.take looked.receiveCursor).1 = some item ∧
      (ofChannel channel).receiveAlone = stepsOfReceiver (count + 3)
        (({ ofChannel looked with receiving := stage } : Interleaving α).approach
          looked.receiveCursor) := by
  let start := (ofChannel channel).startReceive
  obtain ⟨found, -⟩ := holds.take_of_cons items
  have different : channel.sendCursor ≠ channel.receiveCursor := by
    intro same
    rw [holds.cursors_eq_iff.mp same] at items
    cases items
  cases stocked : channel.seemsStocked with
  | true =>
      have first : start.stepReceiver = start.approach channel.receiveCursor := by
        rw [stepReceiver_readReceive, stocked]
        rfl
      refine ⟨channel, .readReceive, 3, by simp [Channel.refreshSendCache, stocked], found, ?_⟩
      exact congrArg (stepsOfReceiver 6) first
  | false =>
      let looked := { channel with sendCache := channel.sendCursor }
      let begun : Interleaving α :=
        { ofChannel looked with receiving := .readSend channel.receiveCursor }
      have second : start.stepReceiver.stepReceiver = begun.approach channel.receiveCursor := by
        rw [stepReceiver_readReceive, stocked]
        exact if_neg different
      refine ⟨looked, .readSend channel.receiveCursor, 2, ?_, found, ?_⟩
      · simp [Channel.refreshSendCache, stocked, different, looked]
      · exact congrArg (stepsOfReceiver 5) second

/-- A receive that is never interrupted is the receive of the channel. -/
theorem Channel.Holds.receiveAlone (holds : channel.Holds queue)
    (alive : queue.receiverAlive = true) :
    (ofChannel channel).receiveAlone.Reaches channel.tryReceive ∧
      (ofChannel channel).receiveAlone.receiving = .idle (some channel.tryReceive.result) := by
  cases items : queue.items with
  | nil =>
      have taken : channel.tryReceive =
          ⟨.error (if queue.senderAlive then .empty else .closed), channel, []⟩ := by
        rw [Channel.tryReceive, holds.takeOldest_of_nil alive items]
        cases queue.senderAlive <;> rfl
      rw [holds.receiveAlone_of_nil alive items, taken]
      exact ⟨⟨rfl, rfl, rfl, rfl, rfl⟩, rfl⟩
  | cons item rest =>
      obtain ⟨looked, stage, count, refreshed, found, route⟩ := holds.receiveAlone_of_cons items
      have ended := @stepsOfReceiver_approach _ { ofChannel looked with receiving := stage } item
        looked.receiveCursor rfl found count
      rw [route, ended, Channel.tryReceive, takeOldest_of_found refreshed found]
      exact ⟨⟨rfl, rfl, rfl, rfl, rfl⟩, rfl⟩

end Handoff.Ring
