import Handoff.Proofs.Ring.Conservation

namespace Handoff.Ring

/-! Which slots of a ring are filled between two operations, and how far each end may be
behind the other in what it remembers.  Every slot that is read or written is then as it
has to be, down to the last one that is freed.
-/

namespace Channel

variable {channel : Channel α} {queue : Queue α} {cursor : Cursor}

/-- There is an element at the cursor. -/
def Covers (channel : Channel α) (cursor : Cursor) : Prop :=
  channel.receiveCursor.toNat ≤ cursor.toNat ∧ cursor.toNat < channel.sendCursor.toNat

structure Intact (channel : Channel α) : Prop where
  ordered : channel.receiveCursor.toNat ≤ channel.sendCursor.toNat
  within : channel.sendCursor.toNat - channel.receiveCursor.toNat ≤ channel.mask.toNat
  unclaimed : channel.receiveCursor.isClaimed = false
  filled : ∀ index, (channel.slots.read index).isSome = true ↔
    ∃ cursor, channel.Covers cursor ∧ cursor.slot channel.mask = index
  apart : ∀ first second, channel.Covers first → channel.Covers second →
    first.slot channel.mask = second.slot channel.mask → first = second
  receiveCache_le : channel.receiveCache.toNat ≤ channel.receiveCursor.toNat
  receiveCache_near : channel.sendCursor.toNat - channel.receiveCache.toNat ≤ channel.mask.toNat
  sendCache_le : channel.sendCache.toNat ≤ channel.sendCursor.toNat
  sendCache_ahead : channel.overflow = .wait →
    channel.receiveCursor.toNat ≤ channel.sendCache.toNat
  freeSlots_eq : channel.freeSlots + (channel.sendCursor.toNat - channel.receiveCursor.toNat) =
    channel.mask.toNat

theorem Holds.covers_iff (holds : channel.Holds queue) :
    channel.Covers cursor ↔ (placed queue.departed queue.items cursor.toNat).isSome = true := by
  rw [Covers, holds.oldest, holds.newest, isSome_placed]
  rfl

theorem Holds.slot_eq (holds : channel.Holds queue) (cursor : Cursor) :
    cursor.slot channel.mask = cursor.toNat % (queue.bound + 1) :=
  Memory.slot_eq channel.toMemory holds.mask cursor

theorem exists_cursor {position : Nat} (below : position ≤ Cursor.horizon) :
    ∃ cursor : Cursor, cursor.toNat = position := by
  have within := Cursor.lt_period below
  refine ⟨Cursor.start.advanceBy position, ?_⟩
  rw [Cursor.toNat_advanceBy, Cursor.toNat_start, Nat.zero_add, Nat.mod_eq_of_lt (by omega)]

theorem Holds.filled_iff (holds : channel.Holds queue) (index : Nat) :
    (channel.slots.read index).isSome = true ↔
      ∃ cursor, channel.Covers cursor ∧ cursor.slot channel.mask = index := by
  constructor
  · intro filled
    -- a slot that no element between the cursors has is vacant
    by_contra unused
    have vacant := holds.hold.vacant index fun position present same => by
      obtain ⟨lower, upper⟩ := isSome_placed.mp present
      obtain ⟨cursor, rfl⟩ := exists_cursor (Nat.le_trans (Nat.le_of_lt upper) holds.few)
      exact unused ⟨cursor, holds.covers_iff.mpr present, (holds.slot_eq cursor).trans same⟩
    rw [vacant] at filled
    cases filled
  · rintro ⟨cursor, covers, rfl⟩
    have present := holds.covers_iff.mp covers
    rw [holds.slot_eq, holds.hold.read_eq present]
    exact present

theorem Holds.intact (holds : channel.Holds queue) : channel.Intact where
  ordered := by
    rw [holds.oldest, holds.newest]
    exact queue.departed_le_accepted
  within := by
    have fits := holds.fits
    rw [holds.oldest, holds.newest, holds.mask.toNat_eq, Queue.accepted]
    omega
  unclaimed := Cursor.isClaimed_of_le holds.oldest_le
  filled := holds.filled_iff
  apart := by
    intro first second firstCovered secondCovered same
    rw [holds.slot_eq, holds.slot_eq] at same
    apply Cursor.ext_toNat
    exact holds.hold.apart _ _ (holds.covers_iff.mp firstCovered)
      (holds.covers_iff.mp secondCovered) same
  receiveCache_le := by
    rw [holds.oldest]
    exact holds.receiveCache_le
  receiveCache_near := by
    have near := holds.receiveCache_near
    rw [holds.newest, holds.mask.toNat_eq]
    omega
  sendCache_le := by
    rw [holds.newest]
    exact holds.sendCache_le
  sendCache_ahead := by
    intro waits
    rw [holds.oldest]
    exact holds.sendCache_ahead (holds.overflow.symm.trans waits)
  freeSlots_eq := by
    have fits := holds.fits
    rw [Memory.freeSlots, holds.length_eq, Memory.capacity, holds.oldest, holds.newest,
      holds.mask.toNat_eq, Queue.accepted]
    omega

/-! When both ends are gone. -/

theorem Holds.free_hold (holds : channel.Holds queue) :
    channel.free.state.slots.Hold (queue.bound + 1) fun _ => none :=
  (takeEach_of_hold holds.mask holds.hold channel.unread holds.unread_toNat).2

/-- The second end to be dropped empties the ring. -/
theorem Holds.last_drop (holds : channel.Holds queue) {drop : Action α}
    (second : drop = .dropSender ∧ queue.senderAlive = true ∧ queue.receiverAlive = false ∨
      drop = .dropReceiver ∧ queue.receiverAlive = true ∧ queue.senderAlive = false) :
    (channel.call (.act drop)).state.slots.Hold (queue.bound + 1) (fun _ => none) ∧
      (channel.call (.act drop)).state.senderAlive = false ∧
      (channel.call (.act drop)).state.receiverAlive = false := by
  obtain ⟨rfl, there, gone⟩ | ⟨rfl, there, gone⟩ := second
  · have left : (channel.call (.act .dropSender)).state =
        ({ channel.withMemory channel.close with senderAlive := false } :
          Channel α).free.state := by
      simp [Channel.call, asEntries, perform, ifSender, Channel.dropSender, shut,
        Channel.freeIfAbandoned, withMemory, holds.senderAlive, there, holds.receiverAlive, gone]
    rw [left]
    exact ⟨holds.withoutSender.free_hold, rfl, holds.receiverAlive.trans gone⟩
  · have left : (channel.call (.act .dropReceiver)).state =
        ({ channel.withMemory channel.close with receiverAlive := false } :
          Channel α).free.state := by
      simp [Channel.call, asEntries, perform, ifReceiver, Channel.dropReceiver, shut,
        Channel.freeIfAbandoned, withMemory, holds.senderAlive, gone, holds.receiverAlive, there]
    rw [left]
    exact ⟨holds.withoutReceiver.free_hold, holds.senderAlive.trans gone, rfl⟩

/-- A channel without ends only says so, and nothing happens to it. -/
theorem call_of_absent (call : Call α) :
    ∃ reply, ∀ channel : Channel α, channel.senderAlive = false →
      channel.receiverAlive = false → channel.call call = ⟨reply, channel, []⟩ := by
  cases call with
  | act action =>
      cases action with
      | describe =>
          refine ⟨.plain (.described none none), fun channel sender receiver => ?_⟩
          simp [Channel.call, asEntries, perform, sender, receiver, Outcome.mapResult,
            Outcome.mapLog]
      | unknown name => exact ⟨.plain .refused, fun channel _ _ => rfl⟩
      | _ =>
          refine ⟨.plain .gone, fun channel sender receiver => ?_⟩
          simp [Channel.call, asEntries, perform, ifSender, ifReceiver, sender, receiver,
            Outcome.mapResult, Outcome.mapLog]
  | send value script =>
      exact ⟨.plain .gone, fun channel sender _ => by simp [Channel.call, sender]⟩
  | receive script =>
      exact ⟨.plain .gone, fun channel _ receiver => by simp [Channel.call, receiver]⟩

theorem after_of_absent (senderGone : channel.senderAlive = false)
    (receiverGone : channel.receiverAlive = false) (calls : List (Call α)) :
    channel.after calls = channel := by
  induction calls with
  | nil => rfl
  | cons call rest ih =>
      obtain ⟨reply, absent⟩ := call_of_absent call
      rw [after_cons, absent channel senderGone receiverGone]
      exact ih

/-- The ring is intact as long as there is an end, and empty afterwards.  No operation on
the way, nor the one that freed the ring, found a slot in the wrong state. -/
theorem intact_or_freed {overflow : Overflow} {requested : Nat} {created : Step α Unit}
    (made : create overflow requested = .ok created) (calls : List (Call α))
    (few : (Ledger.ofTurns (created.state.turns calls)).accepted.length < Cursor.horizon) :
    (created.state.after calls).slots.faulty = false ∧
      if (created.state.after calls).senderAlive || (created.state.after calls).receiverAlive then
        (created.state.after calls).Intact
      else ∀ index, (created.state.after calls).slots.read index = none := by
  obtain ⟨bound, size, -, -, represents, -⟩ := turns_of_create made calls (Nat.le_of_lt few)
  rw [represents.senderAlive, represents.receiverAlive, ← Queue.present]
  cases ended : ((Queue.empty overflow bound).after calls).present with
  | true =>
      have holds := represents.holds ended
      exact ⟨holds.hold.sound, holds.intact⟩
  | false =>
      obtain ⟨before, call, rest, rfl, there, gone⟩ := Queue.exists_last_drop rfl calls ended
      obtain ⟨drop, rfl, second⟩ := Queue.call_leaves there gone
      have fewBefore := few_before few
      obtain ⟨-, represents, -⟩ := turns_of_size made size before (Nat.le_of_lt fewBefore)
      obtain ⟨hold, senderGone, receiverGone⟩ := (represents.holds there).last_drop second
      rw [after_append, after_cons, after_of_absent senderGone receiverGone]
      exact ⟨hold.sound, fun index => hold.vacant index (by simp)⟩

/-- A ring of two slots goes round, loses an element to a later one, and is left with one
that nobody has received. -/
theorem two_slots_freed :
    let calls : List (Call Nat) :=
      [.act (.trySend 1), .act (.trySend 2), .act .tryReceive, .act (.trySend 3)]
    let drops : List (Call Nat) := [.act .dropReceiver, .act .dropSender]
    ((ofSize .overwrite 2).after calls).Intact ∧
      ((ofSize .overwrite 2).after (calls ++ drops)).slots.faulty = false ∧
      ∀ index, ((ofSize .overwrite 2).after (calls ++ drops)).slots.read index = none := by
  intro calls drops
  obtain ⟨-, intact⟩ := @intact_or_freed Nat .overwrite 2
    ⟨(), ofSize .overwrite 2, [.noted (.ringCreated 2 2 true)]⟩ rfl calls (by decide)
  obtain ⟨faultless, freed⟩ := @intact_or_freed Nat .overwrite 2
    ⟨(), ofSize .overwrite 2, [.noted (.ringCreated 2 2 true)]⟩ rfl (calls ++ drops) (by decide)
  rw [if_pos (by decide)] at intact
  rw [if_neg (by decide)] at freed
  exact ⟨intact, faultless, freed⟩

end Channel

end Handoff.Ring
