import Handoff.Proofs.Ring.Kept
import Handoff.Proofs.Ring.Placement
import Handoff.Proofs.Ring.Position

namespace Handoff.Ring

/-! A ring in use for any length of time.  Cursors start again when they have counted through
all positions, and so nothing is said here of how many elements were sent: only the steps
from one cursor to another matter, and they are few.
-/

namespace Cursor

/-- The steps from one position to another. -/
def gap (first second : Cursor) : Nat :=
  (first.distanceTo second).toNat

variable {first second : Cursor}

theorem gap_eq (firstBelow : first.toNat < period) (secondBelow : second.toNat < period) :
    gap first second =
      if first.toNat ≤ second.toNat then second.toNat - first.toNat
      else period - (first.toNat - second.toNat) :=
  toNat_distanceTo firstBelow secondBelow

theorem advance_below (cursor : Cursor) : cursor.advance.toNat < period := by
  rw [toNat_advance]
  exact Nat.mod_lt _ (by decide)

theorem gap_self (below : first.toNat < period) : gap first first = 0 := by
  rw [gap_eq below below, if_pos (Nat.le_refl _), Nat.sub_self]

theorem add_gap (firstBelow : first.toNat < period) (secondBelow : second.toNat < period) :
    (first.toNat + gap first second) % period = second.toNat := by
  rw [gap_eq firstBelow secondBelow]
  unfold period at *
  split <;> omega

theorem eq_of_gap (firstBelow : first.toNat < period) (secondBelow : second.toNat < period)
    (none : gap first second = 0) : second = first := by
  rw [gap_eq firstBelow secondBelow] at none
  apply ext_toNat
  unfold period at *
  split at none <;> omega

theorem gap_advance_right (firstBelow : first.toNat < period) (secondBelow : second.toNat < period)
    (near : gap first second + 1 < period) :
    gap first second.advance = gap first second + 1 := by
  rw [gap_eq firstBelow secondBelow] at *
  rw [gap_eq firstBelow (advance_below second), toNat_advance]
  unfold period at *
  split at near <;> split <;> omega

theorem gap_advance_left (firstBelow : first.toNat < period) (secondBelow : second.toNat < period)
    (some : 0 < gap first second) : gap first.advance second = gap first second - 1 := by
  rw [gap_eq firstBelow secondBelow] at *
  rw [gap_eq (advance_below first) secondBelow, toNat_advance]
  unfold period at *
  split at some <;> split <;> omega

end Cursor

namespace IsMask

variable {mask : UInt64} {bound : Nat} {first second : Cursor}

/-- Starting again does not change which slot a position has. -/
theorem slot_wrap (isMask : IsMask mask bound) (number steps : Nat) :
    (number % Cursor.period + steps) % (bound + 1) = (number + steps) % (bound + 1) := by
  obtain ⟨bits, shape⟩ := isMask.shape
  have small := isMask.small
  rw [Nat.one_shiftLeft] at shape
  have fewer : bits ≤ 63 := by
    by_contra more
    have large : 2 ^ 63 ≤ 2 ^ bits := Nat.pow_le_pow_right (by decide) (by omega)
    unfold Cursor.horizon at small
    omega
  have divides : bound + 1 ∣ Cursor.period := by
    rw [shape]
    exact Nat.pow_dvd_pow 2 fewer
  rw [Nat.add_mod, Nat.mod_mod_of_dvd _ divides, ← Nat.add_mod]

theorem beq_gap (isMask : IsMask mask bound) :
    (first.distanceTo second == mask) = true ↔ Cursor.gap first second = bound := by
  rw [beq_iff_eq, ← UInt64.toNat_inj, isMask.toNat_eq, Cursor.gap]

theorem lt_gap (isMask : IsMask mask bound) :
    first.distanceTo second < mask ↔ Cursor.gap first second < bound := by
  rw [UInt64.lt_iff_toNat_lt, isMask.toNat_eq, Cursor.gap]

theorem stocked_gap (isMask : IsMask mask bound) :
    (first.distanceTo second != 0 && decide (first.distanceTo second ≤ mask)) = true ↔
      0 < Cursor.gap first second ∧ Cursor.gap first second ≤ bound := by
  simp only [Bool.and_eq_true, bne_iff_ne, ne_eq, decide_eq_true_eq, ← UInt64.toNat_inj,
    UInt64.le_iff_toNat_le, isMask.toNat_eq, UInt64.toNat_zero, Cursor.gap]
  omega

end IsMask

namespace Channel

open Cursor

/-- The slots from the receive cursor up to the send cursor are filled, and the memory that
each end has of the other cannot make it believe otherwise. -/
structure Spans (channel : Channel α) (bound : Nat) : Prop where
  mask : IsMask channel.mask bound
  receiveBelow : channel.receiveCursor.toNat < period
  sendBelow : channel.sendCursor.toNat < period
  receiveCacheBelow : channel.receiveCache.toNat < period
  sendCacheBelow : channel.sendCache.toNat < period
  filled : ∀ steps < gap channel.receiveCursor channel.sendCursor,
    (channel.slots.read ((channel.receiveCursor.toNat + steps) % (bound + 1))).isSome = true
  lags : gap channel.receiveCursor channel.sendCursor ≤
    gap channel.receiveCache channel.sendCursor
  near : gap channel.receiveCache channel.sendCursor ≤ bound
  seen : gap channel.receiveCursor channel.sendCache ≤ bound →
    gap channel.receiveCursor channel.sendCache ≤ gap channel.receiveCursor channel.sendCursor

variable {channel looked : Channel α} {bound : Nat} {value : α}

theorem Spans.fits (spans : channel.Spans bound) :
    gap channel.receiveCursor channel.sendCursor ≤ bound :=
  Nat.le_trans spans.lags spans.near

theorem spans_ofSize {size : Nat} (overflow : Overflow)
    (mask : IsMask (UInt64.ofNat (size - 1)) bound) :
    (ofSize overflow size : Channel α).Spans bound := by
  have below : start.toNat < period := by decide
  have none : gap start start = 0 := gap_self below
  refine ⟨mask, below, below, below, below, ?_, Nat.le_refl _, ?_, fun _ => Nat.le_refl _⟩
  · intro steps few
    exact absurd (Nat.lt_of_lt_of_eq few none) (Nat.not_lt_zero steps)
  · exact Nat.le_trans (Nat.le_of_eq none) (Nat.zero_le bound)

/-! Sending. -/

theorem Spans.seemsFull_iff (spans : channel.Spans bound) :
    channel.seemsFull = true ↔ gap channel.receiveCache channel.sendCursor = bound :=
  spans.mask.beq_gap

/-- A sender that finds the ring full twice is right. -/
theorem Spans.refreshReceiveCache (spans : channel.Spans bound) :
    channel.refreshReceiveCache.Spans bound ∧
      (channel.refreshReceiveCache.seemsFull = true ↔
        gap channel.receiveCursor channel.sendCursor = bound) := by
  have position := position_of_lt spans.receiveBelow
  rw [Channel.refreshReceiveCache]
  split
  · have looked : ({ channel with receiveCache := channel.receiveCursor.position } :
        Channel α).Spans bound :=
      { spans with
        receiveCacheBelow := by rw [position]; exact spans.receiveBelow
        lags := Nat.le_of_eq (by rw [position])
        near := by rw [position]; exact spans.fits }
    refine ⟨looked, ?_⟩
    rw [looked.seemsFull_iff, position]
  · next roomy =>
      refine ⟨spans, iff_of_false roomy fun full => ?_⟩
      rw [spans.seemsFull_iff] at roomy
      exact roomy (Nat.le_antisymm spans.near (full ▸ spans.lags))

theorem Spans.gap_lt_period (spans : channel.Spans bound) {steps : Nat} (few : steps ≤ bound) :
    steps + 1 < period :=
  lt_period (Nat.le_of_lt (Nat.lt_of_le_of_lt few spans.mask.small))

theorem Spans.publish_slots (spans : channel.Spans bound) (value : α) :
    (channel.publish value).state.slots =
      channel.slots.write (channel.sendCursor.toNat % (bound + 1)) value :=
  Memory.slots_write channel.toMemory spans.mask channel.sendCursor value

/-- The slot behind the last element. -/
theorem Spans.slot_eq (spans : channel.Spans bound) :
    channel.sendCursor.toNat % (bound + 1) =
      (channel.receiveCursor.toNat + gap channel.receiveCursor channel.sendCursor) %
        (bound + 1) := by
  conv => lhs; rw [← add_gap spans.receiveBelow spans.sendBelow]
  exact spans.mask.slot_wrap _ 0

theorem Spans.publish (spans : channel.Spans bound)
    (room : gap channel.receiveCache channel.sendCursor < bound) (value : α) :
    (channel.publish value).state.Spans bound ∧
      gap (channel.publish value).state.receiveCursor (channel.publish value).state.sendCursor =
        gap channel.receiveCursor channel.sendCursor + 1 := by
  have apart :=
    gap_advance_right spans.receiveBelow spans.sendBelow (spans.gap_lt_period spans.fits)
  have remembered :=
    gap_advance_right spans.receiveCacheBelow spans.sendBelow (spans.gap_lt_period spans.near)
  refine ⟨?_, apart⟩
  exact
    { spans with
      sendBelow := advance_below _
      filled := by
        intro steps few
        have few : steps < gap channel.receiveCursor channel.sendCursor + 1 :=
          Nat.lt_of_lt_of_eq few apart
        rw [spans.publish_slots, Slots.read_write, spans.slot_eq]
        split
        · rfl
        · next differs =>
            refine spans.filled steps (Nat.lt_of_le_of_ne (Nat.le_of_lt_succ few) ?_)
            rintro rfl
            exact differs rfl
      lags := by
        have lags := spans.lags
        change gap channel.receiveCursor channel.sendCursor.advance ≤
          gap channel.receiveCache channel.sendCursor.advance
        omega
      near := by
        change gap channel.receiveCache channel.sendCursor.advance ≤ bound
        omega
      seen := by
        intro close
        have seen := spans.seen close
        change gap channel.receiveCursor channel.sendCache ≤
          gap channel.receiveCursor channel.sendCursor.advance
        omega }

/-- Without its oldest element the ring still has all the others. -/
theorem Spans.filled_behind (spans : channel.Spans bound) {steps : Nat}
    (few : steps + 1 < gap channel.receiveCursor channel.sendCursor) :
    ((channel.slots.take (channel.receiveCursor.toNat % (bound + 1))).2.read
      ((channel.receiveCursor.advance.toNat + steps) % (bound + 1))).isSome = true := by
  have fits := spans.fits
  have apart : channel.receiveCursor.toNat % (bound + 1) ≠
      (channel.receiveCursor.toNat + (steps + 1)) % (bound + 1) :=
    mod_ne_of_lt_of_lt (by omega) (by omega)
  rw [toNat_advance, spans.mask.slot_wrap, Nat.add_assoc, Nat.add_comm 1, Slots.read_take,
    if_neg apart]
  exact spans.filled (steps + 1) few

theorem Spans.slot_eq_behind (spans : channel.Spans bound) {steps : Nat}
    (last : steps + 1 = gap channel.receiveCursor channel.sendCursor) :
    channel.sendCursor.toNat % (bound + 1) =
      (channel.receiveCursor.advance.toNat + steps) % (bound + 1) := by
  rw [spans.slot_eq, ← last, toNat_advance, spans.mask.slot_wrap, Nat.add_right_comm, Nat.add_assoc]

theorem Spans.discardOldest_eq (spans : channel.Spans bound)
    (full : gap channel.receiveCursor channel.sendCursor = bound) :
    channel.discardOldest.state =
      { channel with
        receiveCursor := channel.receiveCursor.advance
        slots := (channel.slots.take (channel.receiveCursor.toNat % (bound + 1))).2
        receiveCache := channel.receiveCursor.advance } := by
  have notRoomy : ¬channel.receiveCursor.distanceTo channel.sendCursor < channel.mask := by
    rw [spans.mask.lt_gap, full]
    exact Nat.lt_irrefl bound
  rw [discardOldest, if_neg notRoomy]
  simp only [Memory.take_eq (channel.moveReceive channel.receiveCursor.advance) spans.mask]
  rfl

/-- The oldest element makes room for a new one. -/
theorem Spans.overwrite (spans : channel.Spans bound)
    (full : gap channel.receiveCursor channel.sendCursor = bound) (value : α) :
    (channel.discardOldest.state.publish value).state.Spans bound := by
  have roomy := spans.mask.roomy
  have wide := spans.gap_lt_period (Nat.le_refl bound)
  have behind := gap_advance_left spans.receiveBelow spans.sendBelow (by omega)
  have still : gap channel.receiveCursor.advance channel.sendCursor.advance = bound := by
    rw [gap_advance_right (advance_below _) spans.sendBelow (by omega), behind]
    omega
  have mask : IsMask channel.discardOldest.state.mask bound := by
    rw [spans.discardOldest_eq full]
    exact spans.mask
  have slots :=
    Memory.slots_write channel.discardOldest.state.toMemory mask channel.sendCursor value
  rw [spans.discardOldest_eq full] at slots ⊢
  exact
    { mask := spans.mask
      receiveBelow := advance_below _
      sendBelow := advance_below _
      receiveCacheBelow := advance_below _
      sendCacheBelow := spans.sendCacheBelow
      filled := by
        intro steps few
        have few : steps < bound := Nat.lt_of_lt_of_eq few still
        refine (congrArg (fun slots : Slots α => (slots.read _).isSome) slots).trans ?_
        rw [Slots.read_write]
        split
        · rfl
        · next differs =>
            refine spans.filled_behind (Nat.lt_of_le_of_ne (full ▸ few) fun last => ?_)
            exact differs (spans.slot_eq_behind last)
      lags := Nat.le_refl _
      near := Nat.le_of_eq still
      seen := fun close => Nat.le_trans close (Nat.le_of_eq still.symm) }

/-! Receiving. -/

theorem Spans.refreshSendCache_cases (spans : channel.Spans bound) :
    (channel.sendCursor = channel.receiveCursor ∧ channel.seemsStocked = false ∧
        channel.refreshSendCache = .error (if channel.closed then .closed else .empty)) ∨
      ∃ looked, channel.refreshSendCache = .ok looked ∧ looked.Spans bound ∧
        looked.toMemory = channel.toMemory ∧
        0 < gap looked.receiveCursor looked.sendCache ∧
        gap looked.receiveCursor looked.sendCache ≤ gap looked.receiveCursor looked.sendCursor := by
  have iff : channel.seemsStocked = true ↔ _ := spans.mask.stocked_gap
  rw [refreshSendCache]
  by_cases stocked : channel.seemsStocked = true
  · obtain ⟨some, close⟩ := iff.mp stocked
    rw [if_pos stocked]
    exact .inr ⟨channel, rfl, spans, rfl, some, spans.seen close⟩
  · rw [if_neg stocked]
    by_cases same : channel.sendCursor = channel.receiveCursor
    · rw [if_pos same]
      exact .inl ⟨same, by simpa using stocked, rfl⟩
    · rw [if_neg same]
      refine .inr ⟨_, rfl, ?_, rfl, ?_, Nat.le_refl _⟩
      · exact { spans with
          sendCacheBelow := spans.sendBelow
          seen := fun _ => Nat.le_refl _ }
      · refine Nat.pos_of_ne_zero fun none => same ?_
        exact eq_of_gap spans.receiveBelow spans.sendBelow none

theorem Spans.take (spans : channel.Spans bound)
    (some : 0 < gap channel.receiveCursor channel.sendCache)
    (seen : gap channel.receiveCursor channel.sendCache ≤
      gap channel.receiveCursor channel.sendCursor) :
    (∃ value, (channel.take channel.receiveCursor).1 = .some value) ∧
      (channel.withMemory ((channel.take channel.receiveCursor).2.moveReceive
        channel.receiveCursor.advance)).Spans bound := by
  have stocked := Nat.lt_of_lt_of_le some seen
  have behind := gap_advance_left spans.receiveBelow spans.sendBelow stocked
  have remembered := gap_advance_left spans.receiveBelow spans.sendCacheBelow some
  rw [Memory.take_eq channel.toMemory spans.mask]
  refine ⟨Option.isSome_iff_exists.mp (spans.filled 0 stocked), ?_⟩
  exact
    { spans with
      receiveBelow := advance_below _
      filled := fun steps few => spans.filled_behind
        (by have few := Nat.lt_of_lt_of_eq few behind; omega)
      lags := Nat.le_trans (Nat.le_trans (Nat.le_of_eq behind) (Nat.sub_le _ 1)) spans.lags
      seen := fun _ => by
        have closer := Nat.sub_le_sub_right seen 1
        rwa [← remembered, ← behind] at closer }

/-- An attempt to receive takes an element, or finds the cursors in one place. -/
theorem Spans.takeOldest_cases (spans : channel.Spans bound) :
    (channel.sendCursor = channel.receiveCursor ∧ channel.seemsStocked = false ∧
        channel.takeOldest =
          ⟨.error (if channel.closed then .closed else .empty), channel, []⟩) ∨
      (∃ value, channel.takeOldest.result = .ok value) ∧ channel.takeOldest.state.Spans bound ∧
        0 < gap channel.receiveCursor channel.sendCursor ∧
        gap channel.takeOldest.state.receiveCursor channel.takeOldest.state.sendCursor + 1 =
          gap channel.receiveCursor channel.sendCursor := by
  obtain ⟨same, unstocked, refreshed⟩ | ⟨looked, refreshed, spans, memory, some, seen⟩ :=
    spans.refreshSendCache_cases
  · exact .inl ⟨same, unstocked, by rw [takeOldest, refreshed]⟩
  · obtain ⟨⟨value, found⟩, taken⟩ := spans.take some seen
    have stocked := Nat.lt_of_lt_of_le some seen
    have behind := gap_advance_left spans.receiveBelow spans.sendBelow stocked
    rw [takeOldest_of_found refreshed found]
    rw [← memory]
    refine .inr ⟨⟨value, rfl⟩, taken, stocked, ?_⟩
    change gap looked.receiveCursor.advance looked.sendCursor + 1 = _
    omega

/-! What becomes of the ends. -/

/-- Which ends are there, and whether it shows. -/
def standing (channel : Channel α) : Bool × Bool × Bool :=
  (channel.closed, channel.senderAlive, channel.receiverAlive)

theorem refreshReceiveCache_standing (channel : Channel α) :
    channel.refreshReceiveCache.standing = channel.standing := by
  rw [Channel.refreshReceiveCache]
  split <;> rfl

theorem discardOldest_standing (channel : Channel α) :
    channel.discardOldest.state.standing = channel.standing := by
  rw [discardOldest]
  split <;> rfl

theorem publish_standing (channel : Channel α) (value : α) :
    (channel.publish value).state.standing = channel.standing := rfl

theorem trySend_standing (channel : Channel α) (value : α) :
    (channel.trySend value).state.standing = channel.standing := by
  rw [trySend]
  split
  · rfl
  · dsimp only
    split
    · split
      · exact channel.refreshReceiveCache_standing
      · rw [Outcome.mapResult_state, Outcome.andThen_state, publish_standing,
          discardOldest_standing, refreshReceiveCache_standing]
    · rw [Outcome.mapResult_state, publish_standing, refreshReceiveCache_standing]

theorem takeOldest_standing (channel : Channel α) :
    channel.takeOldest.state.standing = channel.standing := by
  rw [takeOldest]
  cases refreshed : channel.refreshSendCache with
  | error => rfl
  | ok looked =>
      have same : looked.standing = channel.standing := by
        rw [refreshSendCache] at refreshed
        split at refreshed
        · cases refreshed
          rfl
        · split at refreshed <;> cases refreshed
          rfl
      dsimp only
      split <;> exact same

theorem takeEach_closed (memory : Memory α) (positions : List Cursor) :
    (memory.takeEach positions).2.closed = memory.closed :=
  List.foldlRecOn positions _
    (motive := fun taken : Array α × Memory α => taken.2.closed = memory.closed) rfl
    fun _ same _ _ => same

theorem freeIfAbandoned_standing (channel : Channel α) :
    channel.freeIfAbandoned.state.standing = channel.standing := by
  rw [freeIfAbandoned]
  split
  · rfl
  · exact congrArg (·, channel.senderAlive, channel.receiverAlive) (takeEach_closed _ _)

theorem dropSender_standing (channel : Channel α) :
    channel.dropSender.state.standing = (true, false, channel.receiverAlive) :=
  freeIfAbandoned_standing _

theorem dropReceiver_standing (channel : Channel α) :
    channel.dropReceiver.state.standing = (true, channel.senderAlive, false) :=
  freeIfAbandoned_standing _

/-- An end that is dropped leaves a closed channel to the other. -/
theorem dropSender_eq (receiver : channel.receiverAlive = true) :
    channel.dropSender.state = { channel with closed := true, senderAlive := false } := by
  simp [dropSender, shut, freeIfAbandoned, receiver, withMemory, Memory.close]

theorem dropReceiver_eq (sender : channel.senderAlive = true) :
    channel.dropReceiver.state = { channel with closed := true, receiverAlive := false } := by
  simp [dropReceiver, shut, freeIfAbandoned, sender, withMemory, Memory.close]

/-! Every attempt to send. -/

theorem refreshReceiveCache_receiveCursor (channel : Channel α) :
    channel.refreshReceiveCache.receiveCursor = channel.receiveCursor := by
  rw [Channel.refreshReceiveCache]
  split <;> rfl

theorem refreshReceiveCache_sendCursor (channel : Channel α) :
    channel.refreshReceiveCache.sendCursor = channel.sendCursor := by
  rw [Channel.refreshReceiveCache]
  split <;> rfl

theorem Spans.room_of_roomy (spans : channel.Spans bound) (roomy : channel.seemsFull = false) :
    gap channel.receiveCache channel.sendCursor < bound := by
  rw [Bool.eq_false_iff, ne_eq, spans.seemsFull_iff] at roomy
  exact Nat.lt_of_le_of_ne spans.near roomy

/-- Where there is room, a value is accepted. -/
theorem Spans.trySend_of_room (spans : channel.Spans bound) (opened : channel.closed = false)
    (room : gap channel.receiveCursor channel.sendCursor < bound) (value : α) :
    (channel.trySend value).result = .ok () ∧
      gap (channel.trySend value).state.receiveCursor (channel.trySend value).state.sendCursor =
        gap channel.receiveCursor channel.sendCursor + 1 := by
  obtain ⟨looked, full⟩ := spans.refreshReceiveCache
  have roomy : channel.refreshReceiveCache.seemsFull = false := by
    rw [Bool.eq_false_iff, ne_eq, full]
    exact Nat.ne_of_lt room
  have sent : channel.trySend value =
      (channel.refreshReceiveCache.publish value).mapResult .ok := by
    simp [Channel.trySend, opened, roomy]
  obtain ⟨-, further⟩ := looked.publish (looked.room_of_roomy roomy) value
  rw [channel.refreshReceiveCache_receiveCursor, channel.refreshReceiveCache_sendCursor] at further
  rw [sent]
  exact ⟨rfl, further⟩

theorem Spans.trySend (spans : channel.Spans bound) (value : α) :
    (channel.trySend value).state.Spans bound := by
  obtain ⟨looked, full⟩ := spans.refreshReceiveCache
  rw [Channel.trySend]
  split
  · exact spans
  · cases seems : channel.refreshReceiveCache.seemsFull with
    | false => simpa [seems] using (looked.publish (looked.room_of_roomy seems) value).1
    | true =>
        have apart := full.mp seems
        rw [← channel.refreshReceiveCache_receiveCursor,
          ← channel.refreshReceiveCache_sendCursor] at apart
        cases overflow : channel.refreshReceiveCache.overflow with
        | wait => simpa [seems, overflow] using looked
        | overwrite => simpa [seems, overflow] using looked.overwrite apart value

/-! A whole run. -/

/-- A channel is closed once one of its ends is gone, and its ring is in order as long as
one is there. -/
structure Endures (channel : Channel α) (bound : Nat) : Prop where
  closed : channel.closed = !(channel.senderAlive && channel.receiverAlive)
  spans : (channel.senderAlive || channel.receiverAlive) = true → channel.Spans bound

theorem standing_eq {closed sender receiver : Bool}
    (same : channel.standing = (closed, sender, receiver)) :
    channel.closed = closed ∧ channel.senderAlive = sender ∧ channel.receiverAlive = receiver := by
  simpa only [standing, Prod.mk.injEq] using same

theorem Endures.of_standing {later : Channel α} (endures : channel.Endures bound)
    (same : later.standing = channel.standing)
    (spans : channel.Spans bound → later.Spans bound) : later.Endures bound := by
  obtain ⟨closed, sender, receiver⟩ := standing_eq same
  refine ⟨by rw [closed, sender, receiver, endures.closed], ?_⟩
  rw [sender, receiver]
  exact fun present => spans (endures.spans present)

theorem Endures.dropSender (endures : channel.Endures bound) :
    channel.dropSender.state.Endures bound := by
  obtain ⟨closed, sender, receiver⟩ := standing_eq channel.dropSender_standing
  constructor
  · rw [closed, sender]
    rfl
  · rw [sender, receiver, Bool.false_or]
    intro alive
    rw [dropSender_eq alive]
    exact { endures.spans (by rw [alive, Bool.or_true]) with }

theorem Endures.dropReceiver (endures : channel.Endures bound) :
    channel.dropReceiver.state.Endures bound := by
  obtain ⟨closed, sender, receiver⟩ := standing_eq channel.dropReceiver_standing
  constructor
  · rw [closed, receiver, Bool.and_false]
    rfl
  · rw [sender, receiver, Bool.or_false]
    intro alive
    rw [dropReceiver_eq alive]
    exact { endures.spans (by rw [alive, Bool.true_or]) with }

theorem stable_endures (bound : Nat) :
    Stable fun channel : Channel α => channel.Endures bound where
  trySend channel value endures :=
    endures.of_standing (channel.trySend_standing value) fun spans => spans.trySend value
  takeOldest channel endures := by
    refine endures.of_standing channel.takeOldest_standing fun spans => ?_
    obtain ⟨-, -, unmoved⟩ | ⟨-, taken, -⟩ := spans.takeOldest_cases
    · rwa [unmoved]
    · exact taken
  dropSender channel endures := endures.dropSender
  dropReceiver channel endures := endures.dropReceiver

theorem endures_of_create {overflow : Overflow} {requested : Nat} {created : Step α Unit}
    (made : create overflow requested = .ok created) : ∃ bound, created.state.Endures bound := by
  obtain ⟨size, fitting, rfl⟩ := create_eq_ok_iff.mp made
  exact ⟨size - 1, rfl, fun _ => spans_ofSize overflow (isMask_of_ringSize? fitting)⟩

end Channel

end Handoff.Ring
