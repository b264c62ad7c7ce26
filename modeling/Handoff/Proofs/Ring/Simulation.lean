import Handoff.Proofs.Ring.Balance
import Handoff.Proofs.Ring.Frame
import Handoff.Proofs.Ring.Representation

namespace Handoff.Ring

/-! Whatever is asked of a channel is answered as the queue answers it that the
channel represents.  A channel that both ends have left holds nothing any more,
and answers only that its ends are gone.
-/

structure Channel.Represents (channel : Channel α) (queue : Queue α) : Prop where
  senderAlive : channel.senderAlive = queue.senderAlive
  receiverAlive : channel.receiverAlive = queue.receiverAlive
  holds : queue.present → channel.Holds queue

variable {channel : Channel α} {queue : Queue α} {value item : α} {rest : List α}

theorem Channel.Holds.represents (holds : channel.Holds queue) : channel.Represents queue :=
  ⟨holds.senderAlive, holds.receiverAlive, fun _ => holds⟩

theorem Channel.Represents.holds_of_alive {side : Side} (represents : channel.Represents queue)
    (alive : queue.alive side = true) : channel.Holds queue :=
  represents.holds (Queue.present_of_alive alive)

namespace Mirrors

variable {related weaker : Channel α → Queue α → Prop} {actual : Outcome (Channel α) ε ρ}
  {expected : Outcome (Queue α) ε ρ}

theorem idle {answer : ρ} (holds : related channel queue) :
    Mirrors related (⟨answer, channel, []⟩ : Outcome (Channel α) ε ρ) ⟨answer, queue, []⟩ :=
  ⟨rfl, rfl, holds⟩

theorem mapResult (mirrors : Mirrors related actual expected) (change : ρ → τ) :
    Mirrors related (actual.mapResult change) (expected.mapResult change) :=
  ⟨congrArg change mirrors.result, mirrors.log, mirrors.state⟩

theorem mapLog (mirrors : Mirrors related actual expected) (change : List ε → List δ) :
    Mirrors related (actual.mapLog change) (expected.mapLog change) :=
  ⟨mirrors.result, congrArg change mirrors.log, mirrors.state⟩

theorem weaken (mirrors : Mirrors related actual expected)
    (weaker_of : related actual.state expected.state → weaker actual.state expected.state) :
    Mirrors weaker actual expected :=
  ⟨mirrors.result, mirrors.log, weaker_of mirrors.state⟩

theorem andThen {next : ρ → Channel α → Outcome (Channel α) ε τ}
    {follow : ρ → Queue α → Outcome (Queue α) ε τ} (mirrors : Mirrors related actual expected)
    (later : Mirrors related (next expected.result actual.state)
      (follow expected.result expected.state)) :
    Mirrors related (actual.andThen next) (expected.andThen follow) := by
  refine ⟨?_, ?_, ?_⟩
  · rw [Outcome.andThen_result, Outcome.andThen_result, mirrors.result]
    exact later.result
  · rw [Outcome.andThen_log, Outcome.andThen_log, mirrors.result, mirrors.log, later.log]
  · rw [Outcome.andThen_state, Outcome.andThen_state, mirrors.result]
    exact later.state

end Mirrors

namespace Channel

/-! What the ends report. -/

theorem Holds.length_eq (holds : channel.Holds queue) :
    channel.length = queue.items.length := by
  have ordered : channel.receiveCursor.toNat ≤ channel.sendCursor.toNat := by
    rw [holds.oldest, holds.newest]
    exact queue.departed_le_accepted
  have distance := Cursor.toNat_distanceTo_of_le ordered holds.newest_le
  have fits := holds.fits
  rw [holds.newest, holds.oldest, Queue.accepted] at distance
  rw [Memory.length, holds.position_eq, distance, Memory.capacity, holds.mask.toNat_eq]
  omega

theorem Holds.isDrained_eq (holds : channel.Holds queue) :
    channel.isDrained = queue.items.isEmpty := by
  rw [Memory.isDrained, holds.position_eq, Bool.eq_iff_iff, beq_iff_eq, holds.cursors_eq_iff,
    List.isEmpty_iff]

theorem Holds.isEmpty_eq (holds : channel.Holds queue) :
    channel.isEmpty = queue.items.isEmpty := by
  rw [Memory.isEmpty, holds.length_eq, Bool.eq_iff_iff, beq_iff_eq, List.length_eq_zero_iff,
    List.isEmpty_iff]

theorem Holds.isFull_eq (holds : channel.Holds queue) :
    channel.isFull = (queue.items.length == queue.bound) := by
  rw [Memory.isFull, holds.length_eq, Memory.capacity, holds.mask.toNat_eq]

theorem Holds.describe_eq (holds : channel.Holds queue) (name : String) :
    channel.describe name = queue.describe name := by
  rw [Channel.describe, Queue.describe, holds.closed, holds.length_eq, Memory.capacity,
    holds.mask.toNat_eq]

theorem Holds.ready_eq (holds : channel.Holds queue) (side : Side) :
    channel.ready side = queue.ready side := by
  have fits := holds.fits
  cases side with
  | sender =>
      have room : (!channel.isFull) = decide (queue.items.length < queue.bound) := by
        rw [holds.isFull_eq, Bool.eq_iff_iff]
        simp
        omega
      rw [Channel.ready, Queue.ready, Memory.sendReady, room, holds.closed]
  | receiver =>
      rw [Channel.ready, Queue.ready, Memory.receiveReady, holds.isDrained_eq, holds.closed]

theorem Represents.reports_eq (represents : channel.Represents queue) :
    channel.reports = queue.reports := by
  rw [Channel.reports, Queue.reports, represents.senderAlive, represents.receiverAlive]
  have sender : queue.senderAlive = true → channel.senderReport =
      { length := queue.items.length
        freeSlots := queue.bound - queue.items.length
        isEmpty := queue.items.isEmpty
        isFull := queue.items.length == queue.bound
        isClosed := !queue.receiverAlive } := by
    intro alive
    have holds := represents.holds (by simp [Queue.present, alive])
    rw [senderReport, holds.length_eq, Memory.freeSlots, holds.length_eq, Memory.capacity,
      holds.mask.toNat_eq, holds.isEmpty_eq, holds.isFull_eq, holds.closed, Queue.closed, alive,
      Bool.true_and]
  have receiver : queue.receiverAlive = true → channel.receiverReport =
      { length := queue.items.length
        isEmpty := queue.items.isEmpty
        isClosed := !queue.senderAlive } := by
    intro alive
    have holds := represents.holds (by simp [Queue.present, alive])
    rw [receiverReport, holds.length_eq, holds.isDrained_eq, holds.closed, Queue.closed, alive,
      Bool.and_true]
  congr 1
  · split
    · next alive => rw [sender alive]
    · rfl
  · split
    · next alive => rw [receiver alive]
    · rfl

/-! Receiving. -/

theorem Holds.tryReceive (holds : channel.Holds queue) (alive : queue.receiverAlive = true) :
    Mirrors Holds channel.tryReceive queue.tryReceive := by
  cases items : queue.items with
  | nil =>
      rw [Channel.tryReceive, holds.takeOldest_of_nil alive items, Queue.tryReceive_of_nil items]
      refine ⟨?_, rfl, holds⟩
      cases queue.senderAlive <;> rfl
  | cons item rest =>
      obtain ⟨result, log, state⟩ := holds.takeOldest_of_cons items
      rw [Queue.tryReceive_of_cons items]
      refine ⟨?_, log, state⟩
      rw [Channel.tryReceive, Outcome.mapResult_result, result]

theorem Holds.receiveInto (holds : channel.Holds queue) (alive : queue.receiverAlive = true)
    (register : α) :
    Mirrors Holds (channel.receiveInto register) (queue.receiveInto register) := by
  cases items : queue.items with
  | nil =>
      simp only [Channel.receiveInto, holds.takeOldest_of_nil alive items,
        Queue.receiveInto_of_nil items]
      refine ⟨?_, rfl, holds⟩
      cases queue.senderAlive <;> rfl
  | cons item rest =>
      obtain ⟨result, log, state⟩ := holds.takeOldest_of_cons items
      simp only [Channel.receiveInto, result, Queue.receiveInto_of_cons items]
      exact ⟨rfl, congrArg (· ++ [Event.destroyed register]) log, state⟩

/-! Draining. -/

/-- A drain by what it yields and logs, without what it has yielded so far. -/
def drainFor : Nat → Channel α → List α → Step α (List α)
  | 0, channel, _ => ⟨[], channel, []⟩
  | count + 1, channel, feed =>
      let taken := channel.takeOldest
      match taken.result with
      | .error _ => drainFor count taken.state feed
      | .ok value =>
          let fed := taken.state.sendNext feed
          let rest := drainFor count fed.state feed.tail
          ⟨value :: rest.result, rest.state, taken.log ++ fed.log ++ rest.log⟩

theorem run_eq_drainFor (count : Nat) (drain : Drain α) :
    let ended := drainFor count drain.channel drain.feed
    (Drain.run count drain).channel = ended.state ∧
      (Drain.run count drain).items.toList = drain.items.toList ++ ended.result ∧
      (Drain.run count drain).log.toList = drain.log.toList ++ ended.log := by
  induction count generalizing drain with
  | zero => simp [Drain.run, drainFor]
  | succ count ih =>
      obtain ⟨channel, items, log⟩ := ih drain.next
      rw [Drain.run, channel, items, log]
      cases taken : drain.channel.takeOldest.result <;> simp [Drain.next, drainFor, taken]

theorem Holds.drainFor_of_nil (holds : channel.Holds queue)
    (alive : queue.receiverAlive = true) (items : queue.items = []) (count : Nat)
    (feed : List α) : drainFor count channel feed = ⟨[], channel, []⟩ := by
  induction count with
  | zero => rfl
  | succ count ih =>
      rw [drainFor, holds.takeOldest_of_nil alive items]
      exact ih

theorem receiverNotices_of_accepted (accepted : (channel.trySend value).result = .ok ()) :
    0 < receiverNotices (channel.trySend value).log := by
  have published (room : Channel α) : receiverNotices (room.publish value).log = 1 := rfl
  rw [trySend] at accepted ⊢
  split at accepted
  · cases accepted
  · next opened =>
      dsimp only at accepted ⊢
      rw [if_neg opened]
      split at accepted
      · next full =>
          rw [if_pos full]
          split at accepted
          · cases accepted
          · simp only [Outcome.mapResult_log, Outcome.andThen_log, receiverNotices_append,
              published]
            omega
      · next roomy =>
          rw [if_neg roomy, Outcome.mapResult_log, published]
          exact Nat.one_pos

/-- What a feed adds is counted by what its receiver is told. -/
theorem Holds.sendNext (holds : channel.Holds queue) (feed : List α)
    (few : 0 < receiverNotices (channel.sendNext feed).log → feed ≠ [] →
      queue.accepted < Cursor.horizon) :
    Mirrors Holds (channel.sendNext feed) (queue.sendNext feed) := by
  cases feed with
  | nil => exact .idle holds
  | cons value rest =>
      simp only [Channel.sendNext, Queue.sendNext, holds.senderAlive] at few ⊢
      split
      · next sender =>
          refine (holds.trySend sender value fun accepted => ?_).mapResult fun _ => ()
          have told := receiverNotices_of_accepted accepted
          rw [if_pos sender, Outcome.mapResult_log] at few
          exact few told (List.cons_ne_nil value rest)
      · exact .idle holds

/-- That few elements are sent may be known of the channel or of the queue. -/
theorem Holds.drainFor (holds : channel.Holds queue) (alive : queue.receiverAlive = true)
    (count : Nat) (feed : List α)
    (few : queue.accepted + min (receiverNotices (drainFor count channel feed).log) feed.length ≤
        Cursor.horizon ∨
      queue.accepted + min (receiverNotices (Queue.drainFor count queue feed).log) feed.length <
        Cursor.horizon) :
    Mirrors Holds (drainFor count channel feed) (Queue.drainFor count queue feed) := by
  induction count generalizing channel queue feed with
  | zero => exact .idle holds
  | succ count ih =>
      cases items : queue.items with
      | nil =>
          rw [holds.drainFor_of_nil alive items, Queue.drainFor_of_nil _ items]
          exact .idle holds
      | cons item rest =>
          obtain ⟨result, log, taken⟩ := holds.takeOldest_of_cons items
          have drained : drainFor (count + 1) channel feed =
              let fed := channel.takeOldest.state.sendNext feed
              let rest := drainFor count fed.state feed.tail
              ⟨item :: rest.result, rest.state, [.notified .sender] ++ fed.log ++ rest.log⟩ := by
            simp only [Channel.drainFor, result, log]
          rw [drained] at few ⊢
          simp only [receiverNotices_append, receiverNotices_sender] at few
          have unchanged := Queue.accepted_removeOldest items
          have sent := taken.sendNext feed fun told offered => by
            have present := List.length_pos_iff.mpr offered
            omega
          have room := Queue.removeOldest_room items holds.fits
          obtain ⟨fed, -⟩ | ⟨next, others, rfl, fed⟩ :=
            queue.removeOldest.sendNext_of_room alive room feed
          · rw [Queue.drainFor_of_cons count items fed] at few ⊢
            rw [fed] at sent
            have later := @ih _ queue.removeOldest sent.state alive feed.tail (by
              rw [receiverNotices_cons_sender] at few
              rw [List.length_tail]
              exact few.imp (by omega) (by simp only [List.nil_append]; omega))
            refine ⟨?_, ?_, later.state⟩
            · simp only [later.result]
            · simp [sent.log, later.log]
          · rw [Queue.drainFor_of_cons count items fed] at few ⊢
            rw [fed] at sent
            have later := @ih _ (queue.removeOldest.append next) sent.state alive others (by
              rw [sent.log, receiverNotices_receiver, receiverNotices_cons_sender,
                receiverNotices_append, receiverNotices_receiver, List.length_cons,
                List.tail_cons] at few
              rw [Queue.accepted_append]
              exact few.imp (by omega) (by omega))
            refine ⟨?_, ?_, later.state⟩
            · simp only [List.tail_cons, later.result]
            · simp [sent.log, later.log]

theorem Holds.drain (holds : channel.Holds queue) (alive : queue.receiverAlive = true)
    (limit : Option Nat) (feed : List α)
    (few : queue.accepted + min (receiverNotices (channel.drain limit feed).log) feed.length ≤
        Cursor.horizon ∨
      queue.accepted + min (receiverNotices (queue.drain limit feed).log) feed.length <
        Cursor.horizon) :
    Mirrors Holds (channel.drain limit feed) (queue.drain limit feed) := by
  have same : Drain.bound channel limit feed =
      min (limit.getD (queue.items.length + feed.length)) (queue.items.length + feed.length) := by
    cases limit <;> simp [Drain.bound, holds.length_eq]
  obtain ⟨ended, items, log⟩ :=
    run_eq_drainFor (Drain.bound channel limit feed) ⟨channel, feed, #[], #[]⟩
  simp only [List.nil_append, same] at ended items log
  simp only [Channel.drain, Queue.drain, same, log] at few
  have mirrors := holds.drainFor alive _ feed few
  refine ⟨?_, ?_, ?_⟩
  · simp only [Channel.drain, Queue.drain, describeDrain, same, ended, items, holds.length_eq,
      mirrors.result, mirrors.state.length_eq]
  · simp only [Channel.drain, Queue.drain, same, log, mirrors.log]
  · simp only [Channel.drain, Queue.drain, same, ended]
    exact mirrors.state

/-! Dropping the ends. -/

/-- Taking the elements of neighbouring positions gives them in their order, and leaves
nothing behind. -/
theorem takeEach_of_hold {memory : Memory α} {bound first : Nat} {items : List α}
    (mask : IsMask memory.mask bound)
    (hold : memory.slots.Hold (bound + 1) (placed first items)) (positions : List Cursor)
    (numbers : positions.map Cursor.toNat = List.range' first items.length) :
    (memory.takeEach positions).1.toList = items ∧
      (memory.takeEach positions).2.slots.Hold (bound + 1) fun _ => none := by
  -- generalized over what was taken before, for the induction
  suffices general : ∀ taken : Array α,
      let ended := positions.foldl (fun before cursor =>
        (before.1 ++ (Memory.take before.2 cursor).1.toArray, (Memory.take before.2 cursor).2))
        (taken, memory)
      ended.1.toList = taken.toList ++ items ∧ ended.2.slots.Hold (bound + 1) fun _ => none by
    exact general #[]
  induction items generalizing memory first positions with
  | nil =>
      intro taken
      obtain rfl : positions = [] := by simpa using numbers
      rw [placed_nil] at hold
      exact ⟨(List.append_nil _).symm, hold⟩
  | cons item rest ih =>
      intro taken
      obtain ⟨cursor, later, rfl⟩ : ∃ cursor later, positions = cursor :: later := by
        cases positions with
        | nil => simp at numbers
        | cons cursor later => exact ⟨cursor, later, rfl⟩
      simp only [List.map_cons, List.length_cons, List.range'_succ, List.cons.injEq] at numbers
      obtain ⟨found, left⟩ := hold.take (placed_head item)
      rw [update_placed_cons] at left
      let without : Memory α :=
        { memory with slots := (memory.slots.take (first % (bound + 1))).2 }
      have taking : memory.take cursor = (some item, without) := by
        rw [Memory.take_eq memory mask, numbers.1, ← found]
      have others := @ih without (first + 1) mask left later numbers.2 (taken.push item)
      simpa [taking] using others

theorem Holds.unread_toNat (holds : channel.Holds queue) :
    channel.unread.map Cursor.toNat = List.range' queue.departed queue.items.length := by
  have ordered : channel.receiveCursor.toNat ≤ channel.sendCursor.toNat := by
    rw [holds.oldest, holds.newest]
    exact queue.departed_le_accepted
  have distance := Cursor.toNat_distanceTo_of_le ordered holds.newest_le
  rw [holds.newest, holds.oldest, Queue.accepted, Nat.add_sub_cancel_left] at distance
  rw [Memory.unread, holds.position_eq, distance, List.map_map, List.range'_eq_map_range]
  apply List.map_congr_left
  intro offset inside
  have below := holds.few
  rw [List.mem_range] at inside
  rw [Queue.accepted] at below
  rw [Function.comp_apply, Cursor.toNat_advanceBy, holds.oldest]
  apply Nat.mod_eq_of_lt
  have within := Cursor.lt_period below
  omega

theorem Holds.freeIfAbandoned (holds : channel.Holds queue) :
    Mirrors Represents channel.freeIfAbandoned queue.freeIfAbandoned := by
  rw [Channel.freeIfAbandoned, Queue.freeIfAbandoned, holds.senderAlive, holds.receiverAlive,
    ← Queue.present]
  split
  · exact .idle holds.represents
  · next abandoned =>
      have numbers := holds.unread_toNat
      obtain ⟨values, -⟩ := takeEach_of_hold holds.mask holds.hold channel.unread numbers
      have count : channel.unread.length = queue.items.length := by
        simpa using congrArg List.length numbers
      refine ⟨rfl, ?_, holds.senderAlive, holds.receiverAlive, fun alive => ?_⟩
      · simp only [free, values, count]
        cases items : queue.items with
        | nil =>
            rw [items] at count
            simp [List.eq_nil_of_length_eq_zero count]
        | cons item rest =>
            have present : channel.unread ≠ [] := by
              intro none
              rw [none, items] at count
              cases count
            simp [List.isEmpty_iff, present]
      · exact absurd alive abandoned

theorem Holds.withoutSender (holds : channel.Holds queue) :
    ({ channel.withMemory channel.close with senderAlive := false } : Channel α).Holds
      { queue with senderAlive := false } :=
  { holds with senderAlive := rfl, closed := rfl }

theorem Holds.withoutReceiver (holds : channel.Holds queue) :
    ({ channel.withMemory channel.close with receiverAlive := false } : Channel α).Holds
      { queue with receiverAlive := false } :=
  { holds with
    receiverAlive := rfl
    closed := by rw [Queue.closed, Bool.and_false]; rfl }

theorem Holds.dropSender (holds : channel.Holds queue) :
    Mirrors Represents channel.dropSender queue.dropSender := by
  have freed := holds.withoutSender.freeIfAbandoned
  exact ⟨rfl, congrArg ([Event.notified .receiver, .notified .sender] ++ ·) freed.log,
    freed.state⟩

theorem Holds.dropReceiver (holds : channel.Holds queue) :
    Mirrors Represents channel.dropReceiver queue.dropReceiver := by
  have freed := holds.withoutReceiver.freeIfAbandoned
  exact ⟨rfl, congrArg ([Event.notified .receiver, .notified .sender] ++ ·) freed.log,
    freed.state⟩

end Channel

end Handoff.Ring
