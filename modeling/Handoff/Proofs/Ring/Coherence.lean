import Handoff.Proofs.Ring.Ledger
import Handoff.Proofs.Ring.Placement
import Handoff.Proofs.Ring.Position
import Handoff.Ring.Interleaving

namespace Handoff.Ring

/-! What holds between the two threads of a ring after every access, wherever they
stand.  Each stage of a thread knows something about the cursors that the other thread
cannot spoil, and the slots hold the elements between the cursors, but for the one that
is just arriving or leaving.
-/

/-- The receive cursor while the receiver moves the element at `cursor` out.  Only in a
ring that overwrites does it have to keep the sender away. -/
def lockOf (overflow : Overflow) (cursor : Cursor) : Cursor :=
  match overflow with
  | .wait => cursor
  | .overwrite => cursor.claim

theorem lockOf_position {cursor : Cursor} (overflow : Overflow)
    (below : cursor.toNat ≤ Cursor.horizon) : (lockOf overflow cursor).position = cursor := by
  cases overflow with
  | wait => exact Cursor.position_of_le below
  | overwrite => exact Cursor.position_claim below

namespace Exit

def received? : Exit α → Option α
  | .received value => some value
  | .overwritten .. | .freed _ => none

def overwritten? : Exit α → Option α
  | .overwritten value _ => some value
  | .received _ | .freed _ => none

end Exit

/-- What the sender is about to destroy is still in its slot, and what it has written
is there before anybody is told. -/
def SendStage.mark (accepted : Array α) (held : Nat → Option α) : SendStage α → Nat → Option α
  | .destroy _ _ oldest => Function.update held oldest.toNat accepted[oldest.toNat]?
  | .publish value cursor => Function.update held cursor.toNat (some value)
  | _ => held

/-- What the receiver has taken is not in its slot any more. -/
def ReceiveStage.mark (held : Nat → Option α) : ReceiveStage α → Nat → Option α
  | .release oldest _ => Function.update held oldest.toNat none
  | _ => held

namespace Interleaving

/-- How many elements have left the ring. -/
def departed (run : Interleaving α) : Nat :=
  run.received.size + run.discarded.size

def between (run : Interleaving α) (position : Nat) : Option α :=
  if run.departed ≤ position then run.accepted[position]? else none

/-- The elements in the slots, by their positions. -/
def held (run : Interleaving α) : Nat → Option α :=
  run.receiving.mark (run.sending.mark run.accepted run.between)

def SenderKnows (run : Interleaving α) (bound : Nat) : Prop :=
  match run.sending with
  | .refresh _ cursor => cursor.toNat = run.accepted.size
  | .inspect _ cursor => run.overflow = .overwrite ∧ cursor.toNat = run.accepted.size
  | .overtake _ cursor oldest =>
      run.overflow = .overwrite ∧ cursor.toNat = run.accepted.size ∧
        oldest.isClaimed = false ∧ oldest.toNat + bound ≤ run.accepted.size
  | .destroy _ cursor oldest =>
      run.overflow = .overwrite ∧ cursor.toNat = run.accepted.size ∧
        oldest.toNat + bound = run.accepted.size ∧ oldest.toNat < run.departed
  | .write _ cursor | .publish _ cursor =>
      cursor.toNat = run.accepted.size ∧
        run.accepted.size < run.receiveCache.toNat + bound
  | _ => True

/-- What the receiver knows where it stands.  In a ring that overwrites, the cursor it
has read may fall behind until it is claimed. -/
def ReceiverKnows (run : Interleaving α) : Prop :=
  match run.receiving with
  | .readSend oldest | .readClosed oldest | .readSendAgain oldest =>
      run.memory.receiveCursor.toNat = run.departed ∧ oldest.toNat ≤ run.departed ∧
        (run.overflow = .wait → oldest.toNat = run.departed)
  | .claim oldest =>
      run.overflow = .overwrite ∧ run.memory.receiveCursor.toNat = run.departed ∧
        oldest.toNat ≤ run.departed ∧ oldest.toNat < run.accepted.size
  | .take oldest =>
      run.memory.receiveCursor = lockOf run.overflow oldest ∧ oldest.toNat = run.departed ∧
        oldest.toNat < run.accepted.size
  | .release oldest value =>
      run.memory.receiveCursor = lockOf run.overflow oldest ∧ oldest.toNat = run.departed ∧
        run.accepted[oldest.toNat]? = some value
  | _ => run.memory.receiveCursor.toNat = run.departed

/-- Every element that has left was either received or overwritten, in the order in
which they were accepted. -/
def Accounts (run : Interleaving α) : Prop :=
  ∃ exits : List (Exit α),
    exits.map Exit.value = run.accepted.toList.take run.departed ∧
      (∀ exit ∈ exits, exit.isFreed = false) ∧
      run.received.toList = exits.filterMap Exit.received? ∧
      run.discarded.toList = exits.filterMap Exit.overwritten?

structure Coherent (run : Interleaving α) (bound : Nat) : Prop where
  mask : IsMask run.memory.mask bound
  few : run.accepted.size ≤ Cursor.horizon
  newest : run.memory.sendCursor.toNat = run.accepted.size
  departed_le : run.departed ≤ run.accepted.size
  receiveCache_le : run.receiveCache.toNat ≤ run.departed
  near : run.accepted.size ≤ run.receiveCache.toNat + bound
  sendCache_le : run.sendCache.toNat ≤ run.accepted.size
  sending : run.SenderKnows bound
  receiving : run.ReceiverKnows
  hold : run.memory.slots.Hold (bound + 1) run.held
  accounts : run.Accounts

variable {run : Interleaving α} {bound position : Nat} {value : α} {cursor oldest : Cursor}

theorem Coherent.departed_le_horizon (coherent : run.Coherent bound) :
    run.departed ≤ Cursor.horizon :=
  Nat.le_trans coherent.departed_le coherent.few

theorem Coherent.near_departed (coherent : run.Coherent bound) :
    run.accepted.size ≤ run.departed + bound := by
  have near := coherent.near
  have lagging := coherent.receiveCache_le
  omega

/-- Claimed or not, the receive cursor stands where the next element leaves. -/
theorem Coherent.position_toNat (coherent : run.Coherent bound) :
    run.memory.receiveCursor.position.toNat = run.departed := by
  have knows := coherent.receiving
  have few := coherent.departed_le_horizon
  have unlocked (same : run.memory.receiveCursor.toNat = run.departed) :
      run.memory.receiveCursor.position.toNat = run.departed := by
    rw [Cursor.position_of_le (by omega), same]
  unfold ReceiverKnows at knows
  split at knows
  · exact unlocked knows.1
  · exact unlocked knows.1
  · exact unlocked knows.1
  · exact unlocked knows.2.1
  · rw [knows.1, lockOf_position _ (by omega), knows.2.1]
  · rw [knows.1, lockOf_position _ (by omega), knows.2.1]
  · exact unlocked knows

/-- In a ring that overwrites, a cursor that is not claimed is no lock. -/
theorem Coherent.unlocked (coherent : run.Coherent bound) (overwrites : run.overflow = .overwrite)
    (unclaimed : run.memory.receiveCursor.isClaimed = false) :
    run.memory.receiveCursor.toNat = run.departed ∧
      (∀ oldest, run.receiving ≠ .take oldest) ∧
      ∀ oldest value, run.receiving ≠ .release oldest value := by
  have knows := coherent.receiving
  have free (oldest : Cursor) :
      run.memory.receiveCursor ≠ lockOf run.overflow oldest := by
    intro locked
    rw [locked, overwrites] at unclaimed
    simp [lockOf, Cursor.isClaimed_claim] at unclaimed
  unfold ReceiverKnows at knows
  split at knows
  · next stage => simp [stage, knows.1]
  · next stage => simp [stage, knows.1]
  · next stage => simp [stage, knows.1]
  · next stage => simp [stage, knows.2.1]
  · exact absurd knows.1 (free _)
  · exact absurd knows.1 (free _)
  · next taking releasing => exact ⟨knows, taking, releasing⟩

theorem Coherent.released (coherent : run.Coherent bound)
    (stage : run.receiving = .release oldest value) :
    oldest.toNat = run.departed ∧ run.departed < run.accepted.size := by
  have knows := coherent.receiving
  simp only [ReceiverKnows, stage] at knows
  obtain ⟨-, same, found⟩ := knows
  obtain ⟨inside, -⟩ := Array.getElem?_eq_some_iff.mp found
  exact ⟨same, by omega⟩

/-- That the receiver has taken an element does not touch the other positions. -/
theorem Coherent.mark_update (coherent : run.Coherent bound)
    (other : run.departed < run.accepted.size → position ≠ run.departed)
    (held : Nat → Option α) (content : Option α) :
    run.receiving.mark (Function.update held position content) =
      Function.update (run.receiving.mark held) position content := by
  cases stage : run.receiving with
  | release oldest value =>
      obtain ⟨same, inside⟩ := coherent.released stage
      have apart := other inside
      exact Function.update_comm (by omega) _ _ _
  | _ => rfl

theorem isSome_mark {stage : ReceiveStage α} {held : Nat → Option α}
    (present : (stage.mark held position).isSome) : (held position).isSome := by
  cases stage with
  | release oldest value =>
      rw [ReceiveStage.mark] at present
      by_cases same : position = oldest.toNat
      · simp [same] at present
      · rwa [Function.update_of_ne same] at present
  | _ => exact present

theorem isSome_between :
    (run.between position).isSome ↔ run.departed ≤ position ∧ position < run.accepted.size := by
  unfold between
  split <;> simp <;> omega

theorem between_departed (inside : run.departed < run.accepted.size) :
    run.between run.departed = some run.accepted[run.departed] := by
  simp [between, inside]

/-- The sender has not begun to destroy the elements between the cursors. -/
theorem Coherent.sending_mark_eq (coherent : run.Coherent bound) (lower : run.departed ≤ position)
    (upper : position < run.accepted.size) :
    run.sending.mark run.accepted run.between position = run.accepted[position]? := by
  have knows := coherent.sending
  have found : run.between position = run.accepted[position]? := if_pos lower
  cases stage : run.sending with
  | destroy value cursor oldest =>
      simp only [SenderKnows, stage] at knows
      rw [SendStage.mark, Function.update_of_ne (by omega), found]
  | publish value cursor =>
      simp only [SenderKnows, stage] at knows
      rw [SendStage.mark, Function.update_of_ne (by omega), found]
  | _ => exact found

/-- The slots between the cursors, but for one that the receiver has emptied. -/
theorem Coherent.held_eq (coherent : run.Coherent bound) (lower : run.departed ≤ position)
    (upper : position < run.accepted.size)
    (kept : ∀ oldest value, run.receiving = .release oldest value → position ≠ oldest.toNat) :
    run.held position = run.accepted[position]? := by
  have found := coherent.sending_mark_eq lower upper
  rw [held]
  cases stage : run.receiving with
  | release oldest value =>
      rw [ReceiveStage.mark, Function.update_of_ne (kept oldest value stage), found]
  | _ => exact found

theorem Coherent.peek_eq (coherent : run.Coherent bound)
    (present : (run.held cursor.toNat).isSome) :
    run.memory.peek cursor = run.held cursor.toNat := by
  rw [Memory.peek, Memory.slot_eq run.memory coherent.mask]
  exact coherent.hold.read_eq present

theorem update_between {after : Interleaving α} (accepted : after.accepted = run.accepted)
    (departed : after.departed = run.departed + 1) :
    Function.update run.between run.departed none = after.between := by
  funext position
  by_cases first : position = run.departed
  · rw [first, Function.update_self, between, departed, if_neg (by omega)]
  · rw [Function.update_of_ne first]
    simp only [between, accepted, departed]
    by_cases beyond : run.departed + 1 ≤ position
    · rw [if_pos beyond, if_pos (by omega)]
    · rw [if_neg beyond, if_neg (by omega)]

theorem Accounts.leave {after : Interleaving α} (accounts : run.Accounts) (exit : Exit α)
    (oldest : run.accepted[run.departed]? = some exit.value) (unfreed : exit.isFreed = false)
    (accepted : after.accepted = run.accepted) (departed : after.departed = run.departed + 1)
    (received : after.received.toList = run.received.toList ++ exit.received?.toList)
    (discarded : after.discarded.toList = run.discarded.toList ++ exit.overwritten?.toList) :
    after.Accounts := by
  obtain ⟨exits, values, earlier, taken, destroyed⟩ := accounts
  have single (pick : Exit α → Option α) : [exit].filterMap pick = (pick exit).toList := by
    cases picked : pick exit <;> simp [picked]
  refine ⟨exits ++ [exit], ?_, ?_, ?_, ?_⟩
  · rw [List.map_append, values, accepted, departed, List.take_add_one, Array.getElem?_toList,
      oldest]
    rfl
  · simpa [or_imp, forall_and, unfreed] using earlier
  · rw [received, taken, List.filterMap_append, single]
  · rw [discarded, destroyed, List.filterMap_append, single]

theorem update_between_push {after : Interleaving α}
    (accepted : after.accepted = run.accepted.push value)
    (departed : after.departed = run.departed) (inside : run.departed ≤ run.accepted.size) :
    Function.update run.between run.accepted.size (some value) = after.between := by
  funext position
  by_cases last : position = run.accepted.size
  · rw [last, Function.update_self]
    simp [between, accepted, departed, inside]
  · rw [Function.update_of_ne last]
    simp only [between, accepted, departed]
    split
    · rw [Array.getElem?_push, if_neg last]
    · rfl

end Interleaving

end Handoff.Ring
