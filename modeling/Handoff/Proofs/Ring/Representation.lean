import Handoff.Proofs.Ring.Placement
import Handoff.Proofs.Ring.Position
import Handoff.Proofs.Ring.Queue

namespace Handoff.Ring

/-! How a channel holds a queue, and that each operation of the channel does to what
it holds what the queue would do.  The remembered cursors may be stale, but only on
the safe side: the sender never thinks the ring emptier than it is, and the receiver
never sees an element that has not been sent.
-/

structure Channel.Holds (channel : Channel α) (queue : Queue α) : Prop where
  mask : IsMask channel.mask queue.bound
  overflow : channel.overflow = queue.overflow
  oldest : channel.receiveCursor.toNat = queue.departed
  newest : channel.sendCursor.toNat = queue.accepted
  few : queue.accepted ≤ Cursor.horizon
  fits : queue.items.length ≤ queue.bound
  hold : channel.slots.Hold (queue.bound + 1) (placed queue.departed queue.items)
  receiveCache_le : channel.receiveCache.toNat ≤ queue.departed
  receiveCache_near : queue.accepted ≤ channel.receiveCache.toNat + queue.bound
  sendCache_le : channel.sendCache.toNat ≤ queue.accepted
  sendCache_ahead : queue.overflow = .wait → queue.departed ≤ channel.sendCache.toNat
  senderAlive : channel.senderAlive = queue.senderAlive
  receiverAlive : channel.receiverAlive = queue.receiverAlive
  closed : channel.closed = queue.closed

/-- The same answer and the same events, and states that are related again. -/
structure Mirrors (related : Channel α → Queue α → Prop) (actual : Outcome (Channel α) ε ρ)
    (expected : Outcome (Queue α) ε ρ) : Prop where
  result : actual.result = expected.result
  log : actual.log = expected.log
  state : related actual.state expected.state

namespace Queue

variable {queue : Queue α} {item : α} {rest : List α}

theorem departed_le_accepted (queue : Queue α) : queue.departed ≤ queue.accepted :=
  Nat.le_add_right _ _

@[simp] theorem accepted_append (queue : Queue α) (value : α) :
    (queue.append value).accepted = queue.accepted + 1 := by
  simp [accepted, append, Nat.add_assoc]

theorem accepted_removeOldest (items : queue.items = item :: rest) :
    queue.removeOldest.accepted = queue.accepted := by
  simp [accepted, removeOldest, items]
  omega

end Queue

namespace Channel

variable {channel looked : Channel α} {queue : Queue α} {value item : α} {rest : List α}

theorem Holds.oldest_le (holds : channel.Holds queue) :
    channel.receiveCursor.toNat ≤ Cursor.horizon := by
  rw [holds.oldest]
  exact Nat.le_trans queue.departed_le_accepted holds.few

theorem Holds.newest_le (holds : channel.Holds queue) :
    channel.sendCursor.toNat ≤ Cursor.horizon := by
  rw [holds.newest]
  exact holds.few

theorem Holds.position_eq (holds : channel.Holds queue) :
    channel.receiveCursor.position = channel.receiveCursor :=
  Cursor.position_of_le holds.oldest_le

/-! Sending. -/

theorem Holds.seemsFull_iff (holds : channel.Holds queue) :
    channel.seemsFull = true ↔
      queue.accepted = channel.receiveCache.toNat + queue.bound := by
  have ordered : channel.receiveCache.toNat ≤ channel.sendCursor.toNat := by
    rw [holds.newest]
    exact Nat.le_trans holds.receiveCache_le queue.departed_le_accepted
  rw [seemsFull, holds.mask.distanceTo_beq_iff ordered holds.newest_le, holds.newest]

theorem Holds.lookAtReceiver (holds : channel.Holds queue) :
    ({ channel with receiveCache := channel.receiveCursor.position } : Channel α).Holds queue :=
  { holds with
    receiveCache_le := Nat.le_of_eq (by rw [holds.position_eq, holds.oldest])
    receiveCache_near := by
      rw [holds.position_eq, holds.oldest]
      exact Nat.add_le_add_left holds.fits _ }

/-- Once the receive cursor has been looked at, the sender knows whether there is
room. -/
theorem Holds.refreshReceiveCache (holds : channel.Holds queue) :
    channel.refreshReceiveCache.Holds queue ∧
      (channel.refreshReceiveCache.seemsFull = true ↔ queue.items.length = queue.bound) := by
  have lagging := holds.receiveCache_le
  have near := holds.receiveCache_near
  have fits := holds.fits
  rw [Channel.refreshReceiveCache]
  split
  · next seemed =>
      have looked := holds.lookAtReceiver
      refine ⟨looked, ?_⟩
      rw [looked.seemsFull_iff, holds.position_eq, holds.oldest, Queue.accepted]
      omega
  · next roomy =>
      rw [holds.seemsFull_iff] at roomy
      refine ⟨holds, ?_⟩
      rw [holds.seemsFull_iff]
      rw [Queue.accepted] at near roomy ⊢
      omega

theorem Holds.publish (holds : channel.Holds queue)
    (room : queue.accepted < channel.receiveCache.toNat + queue.bound)
    (few : queue.accepted < Cursor.horizon) (value : α) :
    (channel.publish value).state.Holds (queue.append value) := by
  have advanced := Cursor.toNat_advance_of_le holds.newest_le
  have vacancy : queue.items.length < queue.bound := by
    have lagging := holds.receiveCache_le
    rw [Queue.accepted] at room
    omega
  have written := holds.hold.write value
    (placed_free (Nat.lt_succ_of_lt vacancy))
  rw [update_placed_append] at written
  exact
    { holds with
      newest := by
        rw [Queue.accepted_append, ← holds.newest]
        exact advanced
      few := by rw [Queue.accepted_append]; exact few
      fits := by simpa [Queue.append] using Nat.succ_le_of_lt vacancy
      hold := by
        have slots : (channel.publish value).state.slots = channel.slots.write
            ((queue.departed + queue.items.length) % (queue.bound + 1)) value := by
          rw [← Queue.accepted, ← holds.newest]
          exact Memory.slots_write channel.toMemory holds.mask channel.sendCursor value
        rw [slots]
        exact written
      receiveCache_near := by rw [Queue.accepted_append]; exact room
      sendCache_le := by
        rw [Queue.accepted_append]
        exact Nat.le_succ_of_le holds.sendCache_le }

theorem Holds.discardOldest (holds : channel.Holds queue)
    (overwrites : queue.overflow = .overwrite) (items : queue.items = item :: rest)
    (full : queue.items.length = queue.bound) :
    channel.discardOldest.log =
        [.destroyed item, .noted (.oldestOverwritten queue.departed)] ∧
      channel.discardOldest.state.Holds queue.removeOldest ∧
      channel.discardOldest.state.receiveCache.toNat = queue.departed + 1 := by
  have advanced := Cursor.toNat_advance_of_le holds.oldest_le
  rw [holds.oldest] at advanced
  have ordered : channel.receiveCursor.toNat ≤ channel.sendCursor.toNat := by
    rw [holds.oldest, holds.newest]
    exact queue.departed_le_accepted
  -- the second look at the ring still finds it full, as nobody interferes
  have notRoomy : ¬channel.receiveCursor.distanceTo channel.sendCursor < channel.mask := by
    rw [holds.mask.distanceTo_lt_iff ordered holds.newest_le, holds.newest, holds.oldest,
      Queue.accepted, full]
    exact Nat.lt_irrefl _
  have present : placed queue.departed queue.items queue.departed = some item := by
    rw [items, placed_head]
  obtain ⟨found, taken⟩ := holds.hold.take present
  rw [items, update_placed_cons] at taken
  have taking : (channel.moveReceive channel.receiveCursor.advance).take channel.receiveCursor =
      (some item,
        { channel.toMemory with
          receiveCursor := channel.receiveCursor.advance
          slots := (channel.slots.take (queue.departed % (queue.bound + 1))).2 }) := by
    rw [Memory.take_eq (channel.moveReceive channel.receiveCursor.advance) holds.mask,
      holds.oldest, ← found]
    rfl
  have discarded : channel.discardOldest =
      { result := ()
        state :=
          { channel with
            receiveCursor := channel.receiveCursor.advance
            slots := (channel.slots.take (queue.departed % (queue.bound + 1))).2
            receiveCache := channel.receiveCursor.advance }
        log := [.destroyed item, .noted (.oldestOverwritten queue.departed)] } := by
    simp only [Channel.discardOldest, if_neg notRoomy, taking, holds.oldest]
    rfl
  rw [discarded]
  refine ⟨rfl, ?_, advanced⟩
  exact
    { holds with
      oldest := advanced
      newest := by
        rw [Queue.accepted_removeOldest items]
        exact holds.newest
      few := by
        rw [Queue.accepted_removeOldest items]
        exact holds.few
      fits := by
        have fits := holds.fits
        simp only [Queue.removeOldest, List.length_tail]
        omega
      hold := by
        simp only [Queue.removeOldest, items]
        exact taken
      receiveCache_le := Nat.le_of_eq advanced
      receiveCache_near := by
        rw [Queue.accepted_removeOldest items]
        change _ ≤ channel.receiveCursor.advance.toNat + queue.bound
        rw [advanced, Queue.accepted]
        omega
      sendCache_le := by
        rw [Queue.accepted_removeOldest items]
        exact holds.sendCache_le
      sendCache_ahead := by
        intro waits
        rw [Queue.removeOldest, overwrites] at waits
        cases waits }

/-- The sender acts on what it remembers as if it had looked. -/
theorem Holds.trySend (holds : channel.Holds queue) (alive : queue.senderAlive = true)
    (value : α) (few : (channel.trySend value).result = .ok () → queue.accepted < Cursor.horizon) :
    Mirrors Holds (channel.trySend value) (queue.trySend value) := by
  have shut : channel.closed = !queue.receiverAlive := by
    rw [holds.closed, Queue.closed, alive, Bool.true_and]
  obtain ⟨looked, full_iff⟩ := holds.refreshReceiveCache
  cases receiver : queue.receiverAlive with
  | false =>
      rw [receiver] at shut
      simp only [Channel.trySend, Queue.trySend, shut, receiver, Bool.not_false, if_true]
      exact ⟨rfl, rfl, holds⟩
  | true =>
      rw [receiver] at shut
      simp only [Channel.trySend, shut, Bool.not_true, Bool.false_eq_true, if_false] at few ⊢
      by_cases full : queue.items.length = queue.bound
      · have seemed := full_iff.mpr full
        have policy := looked.overflow
        simp only [seemed, if_true] at few ⊢
        cases overflow : queue.overflow with
        | wait =>
            rw [overflow] at policy
            rw [policy, Queue.trySend_of_full receiver (Nat.le_of_eq full.symm) (.inl overflow)]
            exact ⟨rfl, rfl, looked⟩
        | overwrite =>
            obtain ⟨item, rest, items⟩ := List.exists_cons_of_length_pos
              (Nat.lt_of_lt_of_eq holds.mask.roomy full.symm)
            obtain ⟨log, made, cache⟩ := looked.discardOldest overflow items full
            rw [overflow] at policy
            simp only [policy] at few ⊢
            rw [Queue.trySend_overwriting receiver (Nat.le_of_eq full.symm) overflow items]
            refine ⟨rfl, ?_, made.publish ?_ ?_ value⟩
            · simp only [Outcome.mapResult_log, Outcome.andThen_log, log]
              rfl
            · rw [cache, Queue.accepted_removeOldest items, Queue.accepted, full]
              change queue.departed + queue.bound < queue.departed + 1 + queue.bound
              omega
            · rw [Queue.accepted_removeOldest items]
              exact few rfl
      · have seemed : channel.refreshReceiveCache.seemsFull = false := by
          simpa using mt full_iff.mp full
        have room : queue.items.length < queue.bound :=
          Nat.lt_of_le_of_ne holds.fits full
        simp only [seemed, Bool.false_eq_true, if_false] at few ⊢
        rw [Queue.trySend_of_room receiver room]
        refine ⟨rfl, rfl, looked.publish ?_ (few rfl) value⟩
        have near := looked.receiveCache_near
        have different := mt looked.seemsFull_iff.mpr (by simp [seemed])
        omega

/-! Receiving. -/

theorem Holds.seemsStocked_iff (holds : channel.Holds queue) :
    channel.seemsStocked = true ↔ queue.departed < channel.sendCache.toNat := by
  have ordered := holds.sendCache_le
  have near : channel.sendCache.toNat ≤ channel.receiveCursor.toNat + queue.bound := by
    have fits := holds.fits
    rw [Queue.accepted] at ordered
    rw [holds.oldest]
    omega
  have judged := holds.mask.stocked_iff holds.oldest_le (Nat.le_trans ordered holds.few) near
  rwa [holds.oldest] at judged

theorem Holds.cursors_eq_iff (holds : channel.Holds queue) :
    channel.sendCursor = channel.receiveCursor ↔ queue.items = [] := by
  rw [← List.length_eq_zero_iff]
  constructor
  · intro same
    have counts := congrArg Cursor.toNat same
    rw [holds.newest, holds.oldest, Queue.accepted] at counts
    omega
  · intro none
    apply Cursor.ext_toNat
    rw [holds.newest, holds.oldest, Queue.accepted, none, Nat.add_zero]

theorem Holds.lookAtSender (holds : channel.Holds queue) :
    ({ channel with sendCache := channel.sendCursor } : Channel α).Holds queue :=
  { holds with
    sendCache_le := Nat.le_of_eq holds.newest
    sendCache_ahead := fun _ => holds.newest ▸ queue.departed_le_accepted }

theorem Holds.refreshSendCache_of_cons (holds : channel.Holds queue)
    (items : queue.items = item :: rest) :
    ∃ looked, channel.refreshSendCache = .ok looked ∧ looked.Holds queue ∧
      queue.departed < looked.sendCache.toNat := by
  rw [Channel.refreshSendCache]
  by_cases stocked : channel.seemsStocked = true
  · rw [if_pos stocked]
    exact ⟨channel, rfl, holds, holds.seemsStocked_iff.mp stocked⟩
  · have different : channel.sendCursor ≠ channel.receiveCursor := by
      intro same
      rw [holds.cursors_eq_iff.mp same] at items
      cases items
    have newer : queue.departed < channel.sendCursor.toNat := by
      rw [holds.newest, Queue.accepted, items, List.length_cons]
      omega
    rw [if_neg stocked, if_neg different]
    exact ⟨_, rfl, holds.lookAtSender, newer⟩

theorem Holds.seemsStocked_of_nil (holds : channel.Holds queue) (items : queue.items = []) :
    channel.seemsStocked = false := by
  have ordered := holds.sendCache_le
  rw [Queue.accepted, items, List.length_nil] at ordered
  rw [Bool.eq_false_iff, ne_eq, holds.seemsStocked_iff]
  omega

theorem Holds.takeOldest_of_nil (holds : channel.Holds queue)
    (alive : queue.receiverAlive = true) (items : queue.items = []) :
    channel.takeOldest =
      ⟨.error (if queue.senderAlive then .empty else .closed), channel, []⟩ := by
  have absent := holds.seemsStocked_of_nil items
  have same := holds.cursors_eq_iff.mpr items
  have shut : channel.closed = !queue.senderAlive := by
    rw [holds.closed, Queue.closed, alive, Bool.and_true]
  have refreshed : channel.refreshSendCache =
      .error (if queue.senderAlive then .empty else .closed) := by
    rw [Channel.refreshSendCache, absent, if_neg Bool.false_ne_true, if_pos same, shut]
    cases queue.senderAlive <;> rfl
  rw [Channel.takeOldest, refreshed]

theorem Holds.take_of_cons (holds : channel.Holds queue) (items : queue.items = item :: rest) :
    (channel.take channel.receiveCursor).1 = some item ∧
      (channel.take channel.receiveCursor).2.slots.Hold (queue.bound + 1)
        (placed (queue.departed + 1) rest) := by
  have present : placed queue.departed queue.items queue.departed = some item := by
    rw [items, placed_head]
  obtain ⟨found, taken⟩ := holds.hold.take present
  rw [items, update_placed_cons] at taken
  rw [Memory.take_eq channel.toMemory holds.mask, holds.oldest]
  exact ⟨found, taken⟩

theorem takeOldest_of_found (refreshed : channel.refreshSendCache = .ok looked)
    (found : (looked.take looked.receiveCursor).1 = some item) :
    channel.takeOldest =
      { result := .ok item
        state := looked.withMemory
          ((looked.take looked.receiveCursor).2.moveReceive looked.receiveCursor.advance)
        log := [.notified .sender] } := by
  simp only [Channel.takeOldest, refreshed, found]

theorem Holds.takeOldest_of_cons (holds : channel.Holds queue)
    (items : queue.items = item :: rest) :
    channel.takeOldest.result = .ok item ∧ channel.takeOldest.log = [.notified .sender] ∧
      channel.takeOldest.state.Holds queue.removeOldest := by
  obtain ⟨looked, refreshed, knows, ahead⟩ := holds.refreshSendCache_of_cons items
  obtain ⟨found, taken⟩ := knows.take_of_cons items
  have advanced := Cursor.toNat_advance_of_le knows.oldest_le
  rw [knows.oldest] at advanced
  rw [takeOldest_of_found refreshed found]
  refine ⟨rfl, rfl, ?_⟩
  exact
    { knows with
      oldest := advanced
      newest := by
        rw [Queue.accepted_removeOldest items]
        exact knows.newest
      few := by
        rw [Queue.accepted_removeOldest items]
        exact knows.few
      fits := by
        have fits := knows.fits
        simp only [Queue.removeOldest, List.length_tail]
        omega
      hold := by
        simp only [Queue.removeOldest, items]
        exact taken
      receiveCache_le := Nat.le_succ_of_le knows.receiveCache_le
      receiveCache_near := by
        rw [Queue.accepted_removeOldest items]
        exact knows.receiveCache_near
      sendCache_le := by
        rw [Queue.accepted_removeOldest items]
        exact knows.sendCache_le
      sendCache_ahead := fun _ => ahead }

/-! The beginning. -/

theorem create_eq_ok_iff {overflow : Overflow} {requested : Nat} {created : Step α Unit} :
    create overflow requested = .ok created ↔
      ∃ size, ringSize? requested = some size ∧ created =
        { result := ()
          state := ofSize overflow size
          log := [.noted (.ringCreated requested size overflow.overwrites)] } := by
  rw [create]
  cases ringSize? requested <;> simp [eq_comm]

/-- A new channel holds the empty queue that fills all slots of its ring but one. -/
theorem holds_of_create {overflow : Overflow} {requested : Nat} {created : Step α Unit}
    (made : create overflow requested = .ok created) :
    ∃ bound, ringSize? requested = some (bound + 1) ∧
      created.state.Holds (Queue.empty overflow bound) := by
  obtain ⟨size, fitting, rfl⟩ := create_eq_ok_iff.mp made
  have mask := isMask_of_ringSize? fitting
  have roomy := mask.roomy
  refine ⟨size - 1, fitting.trans (congrArg some (by omega)), ?_⟩
  exact
    { mask := mask
      overflow := rfl
      oldest := rfl
      newest := rfl
      few := Nat.zero_le _
      fits := Nat.zero_le _
      hold := by
        rw [Queue.empty, placed_nil]
        exact Slots.hold_vacant _
      receiveCache_le := Nat.le_refl _
      receiveCache_near := Nat.zero_le _
      sendCache_le := Nat.le_refl _
      sendCache_ahead := fun _ => Nat.le_refl _
      senderAlive := rfl
      receiverAlive := rfl
      closed := rfl }

end Channel

end Handoff.Ring
