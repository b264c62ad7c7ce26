import Handoff.Proofs.Ring.ReceiverSteps
import Handoff.Proofs.Ring.Representation
import Handoff.Proofs.Ring.SenderSteps

namespace Handoff.Ring

/-! Two threads in any order of their accesses.  A run is a list of moves: a thread
begins a call, makes the next access of its call, or drops its end.
-/

inductive Move (α : Type u) where
  | startSend (value : α)
  | stepSender
  | dropSender
  | startReceive
  | stepReceiver
  | dropReceiver
deriving DecidableEq

namespace Interleaving

def move (run : Interleaving α) : Move α → Interleaving α
  | .startSend value => run.startSend value
  | .stepSender => run.stepSender
  | .dropSender => run.dropSender
  | .startReceive => run.startReceive
  | .stepReceiver => run.stepReceiver
  | .dropReceiver => run.dropReceiver

def follow (run : Interleaving α) (moves : List (Move α)) : Interleaving α :=
  moves.foldl move run

variable {run after : Interleaving α} {bound lost : Nat} {oldest : Cursor}

theorem follow_append (run : Interleaving α) (first second : List (Move α)) :
    run.follow (first ++ second) = (run.follow first).follow second :=
  List.foldl_append

/-! What a thread leaves alone, as far as the other one can tell. -/

/-- The sending thread has moved. -/
structure Grows (before after : Interleaving α) : Prop where
  receiving : after.receiving = before.receiving
  received : after.received = before.received
  accepted : before.accepted.size ≤ after.accepted.size
  discarded : before.discarded.size ≤ after.discarded.size

theorem Grows.refl (run : Interleaving α) : run.Grows run :=
  ⟨rfl, rfl, Nat.le_refl _, Nat.le_refl _⟩

theorem grows_startSend (run : Interleaving α) (value : α) : run.Grows (run.startSend value) := by
  unfold startSend
  split
  · exact ⟨rfl, rfl, Nat.le_refl _, Nat.le_refl _⟩
  · exact .refl run

theorem grows_stepSender (run : Interleaving α) : run.Grows run.stepSender := by
  cases stage : run.sending with
  | overtake value cursor oldest =>
      simp only [stepSender, stage]
      split
      · exact ⟨rfl, rfl, Nat.le_refl _, by simp⟩
      · exact ⟨rfl, rfl, Nat.le_refl _, Nat.le_refl _⟩
  | publish value cursor =>
      simp only [stepSender, stage]
      exact ⟨rfl, rfl, by simp, Nat.le_refl _⟩
  | _ =>
      simp only [stepSender, stage]
      repeat' split
      all_goals exact ⟨rfl, rfl, Nat.le_refl _, Nat.le_refl _⟩

theorem grows_dropSender (run : Interleaving α) : run.Grows run.dropSender := by
  unfold dropSender
  split
  · exact ⟨rfl, rfl, Nat.le_refl _, Nat.le_refl _⟩
  · exact .refl run

@[simp] theorem approach_accepted (run : Interleaving α) (oldest : Cursor) :
    (run.approach oldest).accepted = run.accepted := by
  unfold approach
  split <;> rfl

@[simp] theorem approach_discarded (run : Interleaving α) (oldest : Cursor) :
    (run.approach oldest).discarded = run.discarded := by
  unfold approach
  split <;> rfl

theorem stepReceiver_leaves (run : Interleaving α) :
    run.stepReceiver.accepted = run.accepted ∧ run.stepReceiver.discarded = run.discarded := by
  cases stage : run.receiving
  all_goals
    simp only [stepReceiver, stage]
    repeat' split
    all_goals simp [refuseReceive]

/-- Nothing that was accepted or discarded is forgotten. -/
theorem sizes_le_move (run : Interleaving α) (next : Move α) :
    run.accepted.size ≤ (run.move next).accepted.size ∧
      run.discarded.size ≤ (run.move next).discarded.size := by
  have sender {after : Interleaving α} (grows : run.Grows after) :
      run.accepted.size ≤ after.accepted.size ∧ run.discarded.size ≤ after.discarded.size :=
    ⟨grows.accepted, grows.discarded⟩
  cases next with
  | startSend value => exact sender (run.grows_startSend value)
  | stepSender => exact sender run.grows_stepSender
  | dropSender => exact sender run.grows_dropSender
  | startReceive =>
      simp only [move, startReceive]
      split <;> exact ⟨Nat.le_refl _, Nat.le_refl _⟩
  | stepReceiver =>
      obtain ⟨accepted, discarded⟩ := run.stepReceiver_leaves
      simp only [move, accepted, discarded, Nat.le_refl, and_self]
  | dropReceiver =>
      simp only [move, dropReceiver]
      split <;> exact ⟨Nat.le_refl _, Nat.le_refl _⟩

theorem accepted_le_follow (run : Interleaving α) (moves : List (Move α)) :
    run.accepted.size ≤ (run.follow moves).accepted.size := by
  induction moves generalizing run with
  | nil => exact Nat.le_refl _
  | cons next rest ih => exact Nat.le_trans (run.sizes_le_move next).1 (ih _)

/-! Every move keeps the ring coherent, and so does every run. -/

theorem Coherent.move (coherent : run.Coherent bound) (next : Move α)
    (few : (run.move next).accepted.size ≤ Cursor.horizon) : (run.move next).Coherent bound := by
  cases next with
  | startSend value => exact coherent.startSend value
  | stepSender => exact coherent.stepSender few
  | dropSender => exact coherent.dropSender
  | startReceive => exact coherent.startReceive
  | stepReceiver => exact coherent.stepReceiver
  | dropReceiver => exact coherent.dropReceiver

theorem Coherent.follow (coherent : run.Coherent bound) (moves : List (Move α))
    (few : (run.follow moves).accepted.size ≤ Cursor.horizon) :
    (run.follow moves).Coherent bound := by
  induction moves generalizing run with
  | nil => exact coherent
  | cons next rest ih =>
      -- the bound on the whole run is one on every part of it
      have soFar := Nat.le_trans (accepted_le_follow (run.move next) rest) few
      exact ih (coherent.move next soFar) few

/-! A receive that is told that it missed an element. -/

/-- What is known of a receive that began when `lost` elements had been overwritten:
the receive cursor that it has read is not older, and if the element there is gone,
one more has been overwritten. -/
def Since (run : Interleaving α) (lost : Nat) : Prop :=
  match run.receiving with
  | .readSend oldest | .readClosed oldest | .readSendAgain oldest | .claim oldest =>
      run.received.size + lost ≤ oldest.toNat
  | .idle (some (.error .skipped)) => lost < run.discarded.size
  | _ => True

theorem Since.grows (since : run.Since lost) (grows : run.Grows after) : after.Since lost := by
  have more := grows.discarded
  simp only [Since, grows.receiving, grows.received] at since ⊢
  split at since
  · exact since
  · exact since
  · exact since
  · exact since
  · exact Nat.lt_of_lt_of_le since more
  · trivial

theorem since_approach (behind : run.received.size + lost ≤ oldest.toNat) :
    (run.approach oldest).Since lost := by
  unfold approach
  split
  · trivial
  · exact behind

theorem since_stepReceiver (coherent : run.Coherent bound)
    (soFar : lost ≤ run.discarded.size) (since : run.Since lost) :
    run.stepReceiver.Since lost := by
  have knows := coherent.receiving
  cases stage : run.receiving with
  | idle last =>
      simp only [stepReceiver, stage]
      exact since
  | gone =>
      simp only [stepReceiver, stage]
      exact since
  | readReceive =>
      simp only [ReceiverKnows, stage, departed] at knows
      have read : run.received.size + lost ≤ run.memory.receiveCursor.toNat := by omega
      simp only [stepReceiver, stage]
      split
      · exact since_approach read
      · exact read
  | readSend oldest =>
      simp only [Since, stage] at since
      simp only [stepReceiver, stage]
      split
      · exact since
      · exact since_approach since
  | readClosed oldest =>
      simp only [Since, stage] at since
      simp only [stepReceiver, stage]
      split
      · exact since
      · trivial
  | readSendAgain oldest =>
      simp only [Since, stage] at since
      simp only [stepReceiver, stage]
      split
      · trivial
      · exact since_approach since
  | claim oldest =>
      simp only [Since, stage] at since
      simp only [ReceiverKnows, stage] at knows
      by_cases same : run.memory.receiveCursor = oldest
      · simp [stepReceiver, stage, Memory.exchangeReceive?, same, Since]
      · -- the receive cursor is past the position that was read
        have moved : run.memory.receiveCursor.toNat ≠ oldest.toNat :=
          fun level => same (Cursor.ext_toNat level)
        have departed : run.departed = run.received.size + run.discarded.size := rfl
        simp only [stepReceiver, stage, Memory.exchangeReceive?, if_neg same]
        show lost < run.discarded.size
        omega
  | take oldest =>
      simp only [stepReceiver, stage]
      split <;> trivial
  | release oldest value =>
      simp only [stepReceiver, stage]
      trivial

theorem since_move (coherent : run.Coherent bound) (soFar : lost ≤ run.discarded.size)
    (since : run.Since lost) (next : Move α) : (run.move next).Since lost := by
  cases next with
  | startSend value => exact since.grows (run.grows_startSend value)
  | stepSender => exact since.grows run.grows_stepSender
  | dropSender => exact since.grows run.grows_dropSender
  | startReceive =>
      simp only [move, startReceive]
      split
      · trivial
      · exact since
  | stepReceiver => exact since_stepReceiver coherent soFar since
  | dropReceiver =>
      simp only [move, dropReceiver]
      split
      · trivial
      · exact since

theorem since_follow (coherent : run.Coherent bound) (soFar : lost ≤ run.discarded.size)
    (since : run.Since lost) (moves : List (Move α))
    (few : (run.follow moves).accepted.size ≤ Cursor.horizon) :
    (run.follow moves).Since lost := by
  induction moves generalizing run with
  | nil => exact since
  | cons next rest ih =>
      have early := Nat.le_trans (accepted_le_follow (run.move next) rest) few
      have more := (run.sizes_le_move next).2
      exact ih (coherent.move next early) (Nat.le_trans soFar more)
        (since_move coherent soFar since next) few

/-- Only a receive during which the sender has discarded an element is told so. -/
theorem Coherent.skipped_since (coherent : run.Coherent bound)
    (begun : run.receiving = .readReceive) (during : List (Move α))
    (few : (run.follow during).accepted.size ≤ Cursor.horizon)
    (skipped : (run.follow during).receiving = .idle (some (.error .skipped))) :
    run.discarded.size < (run.follow during).discarded.size := by
  have since : run.Since run.discarded.size := by simp only [Since, begun]
  have reached := since_follow coherent (Nat.le_refl _) since during few
  simpa only [Since, skipped] using reached

end Interleaving

/-! What both threads can rely on. -/

/-- The element that the receiving thread is moving out. -/
def ReceiveStage.moved? : ReceiveStage α → Option Cursor
  | .take oldest | .release oldest _ => some oldest
  | _ => none

/-- The slot that the sending thread is about to fill or to empty. -/
def SendStage.touched? : SendStage α → Option Cursor
  | .write _ cursor => some cursor
  | .destroy _ _ oldest => some oldest
  | _ => none

namespace Interleaving

/-- Every access finds its slot as it must be, the element that is being moved out is
left alone by the sender, and every element that was accepted has either left, by
exactly one of two ways, or is between the cursors. -/
structure Safe (run : Interleaving α) : Prop where
  faultless : run.memory.slots.faulty = false
  write_vacant : ∀ value cursor,
    run.sending = .write value cursor → run.memory.peek cursor = none
  destroy_filled : ∀ value cursor oldest, run.sending = .destroy value cursor oldest →
    ∃ element, run.memory.peek oldest = some element ∧
      run.accepted[oldest.toNat]? = some element
  take_filled : ∀ oldest, run.receiving = .take oldest →
    ∃ element, run.memory.peek oldest = some element ∧
      run.accepted[oldest.toNat]? = some element
  undisturbed : ∀ moved touched, run.receiving.moved? = some moved →
    run.sending.touched? = some touched →
      touched.slot run.memory.mask ≠ moved.slot run.memory.mask
  partition : ∃ (exits : List (Exit α)) (inside : List α),
    run.accepted.toList = exits.map Exit.value ++ inside ∧
      run.memory.receiveCursor.position.toNat = exits.length ∧
      run.memory.sendCursor.toNat = exits.length + inside.length ∧
      (∀ exit ∈ exits, exit.isFreed = false) ∧
      run.received.toList = exits.filterMap Exit.received? ∧
      run.discarded.toList = exits.filterMap Exit.overwritten?
  stored : ∀ cursor : Cursor, run.memory.receiveCursor.position.toNat ≤ cursor.toNat →
    cursor.toNat < run.memory.sendCursor.toNat →
      (∀ value, run.receiving ≠ .release cursor value) →
        run.memory.peek cursor = run.accepted[cursor.toNat]?
  ordered : run.received.toList.Sublist run.accepted.toList

variable {run : Interleaving α} {bound : Nat} {value : α} {cursor oldest moved touched : Cursor}

theorem Coherent.peek_write (coherent : run.Coherent bound)
    (stage : run.sending = .write value cursor) : run.memory.peek cursor = none := by
  rw [Memory.peek, Memory.slot_eq run.memory coherent.mask]
  exact coherent.hold.vacant _ (coherent.write_free stage)

theorem Coherent.peek_destroy (coherent : run.Coherent bound)
    (stage : run.sending = .destroy value cursor oldest) :
    ∃ element, run.memory.peek oldest = some element ∧
      run.accepted[oldest.toNat]? = some element := by
  obtain ⟨marked, element, found⟩ := coherent.held_destroy stage
  have present : run.held oldest.toNat = some element := by
    rw [marked, Function.update_self, found]
  exact ⟨element, (coherent.peek_eq (Option.isSome_of_eq_some present)).trans present, found⟩

theorem Coherent.peek_take (coherent : run.Coherent bound)
    (stage : run.receiving = .take oldest) :
    ∃ element, run.memory.peek oldest = some element ∧
      run.accepted[oldest.toNat]? = some element := by
  obtain ⟨element, found, present⟩ := coherent.held_take stage
  exact ⟨element, (coherent.peek_eq (Option.isSome_of_eq_some present)).trans present, found⟩

theorem Coherent.moved_eq (coherent : run.Coherent bound)
    (moving : run.receiving.moved? = some moved) :
    moved.toNat = run.departed ∧ run.departed < run.accepted.size := by
  cases stage : run.receiving with
  | take oldest =>
      obtain ⟨-, here, inside⟩ := coherent.taking stage
      simp only [stage, ReceiveStage.moved?, Option.some.injEq] at moving
      exact ⟨moving ▸ here, here ▸ inside⟩
  | release oldest value =>
      obtain ⟨here, inside⟩ := coherent.released stage
      simp only [stage, ReceiveStage.moved?, Option.some.injEq] at moving
      exact ⟨moving ▸ here, inside⟩
  | _ => simp [stage, ReceiveStage.moved?] at moving

/-- The sender only goes for slots next to those between the cursors. -/
theorem Coherent.touched_eq (coherent : run.Coherent bound)
    (touching : run.sending.touched? = some touched) :
    touched.toNat = run.accepted.size ∧ run.accepted.size < run.departed + bound ∨
      touched.toNat + bound = run.accepted.size ∧ touched.toNat < run.departed := by
  cases stage : run.sending with
  | write value cursor =>
      obtain ⟨here, room⟩ := coherent.writing stage
      have lagging := coherent.receiveCache_le
      simp only [stage, SendStage.touched?, Option.some.injEq] at touching
      exact .inl ⟨touching ▸ here, by omega⟩
  | destroy value cursor oldest =>
      obtain ⟨-, far, gone⟩ := coherent.destroying stage
      simp only [stage, SendStage.touched?, Option.some.injEq] at touching
      exact .inr (touching ▸ ⟨far, gone⟩)
  | _ => simp [stage, SendStage.touched?] at touching

theorem Coherent.undisturbed (coherent : run.Coherent bound)
    (moving : run.receiving.moved? = some moved) (touching : run.sending.touched? = some touched) :
    touched.slot run.memory.mask ≠ moved.slot run.memory.mask := by
  obtain ⟨oldest, inside⟩ := coherent.moved_eq moving
  rw [Memory.slot_eq run.memory coherent.mask, Memory.slot_eq run.memory coherent.mask]
  rcases coherent.touched_eq touching with ⟨newest, room⟩ | ⟨behind, gone⟩
  · exact (mod_ne_of_lt_of_lt (by omega) (by omega)).symm
  · exact mod_ne_of_lt_of_lt (by omega) (by omega)

theorem filterMap_received?_sublist (exits : List (Exit α)) :
    (exits.filterMap Exit.received?).Sublist (exits.map Exit.value) := by
  induction exits with
  | nil => exact .slnil
  | cons exit rest ih =>
      cases exit with
      | received value => exact ih.cons_cons value
      | overwritten value cursor => exact ih.cons value
      | freed value => exact ih.cons value

theorem Coherent.safe (coherent : run.Coherent bound) : run.Safe where
  faultless := coherent.hold.sound
  write_vacant _ _ stage := coherent.peek_write stage
  destroy_filled _ _ _ stage := coherent.peek_destroy stage
  take_filled _ stage := coherent.peek_take stage
  undisturbed _ _ moving touching := coherent.undisturbed moving touching
  partition := by
    obtain ⟨exits, values, unfreed, received, discarded⟩ := coherent.accounts
    have departed_le := coherent.departed_le
    have count : exits.length = run.departed := by
      have lengths := congrArg List.length values
      simpa [departed_le] using lengths
    refine ⟨exits, run.accepted.toList.drop run.departed, ?_, ?_, ?_, unfreed, received, discarded⟩
    · rw [values, List.take_append_drop]
    · rw [coherent.position_toNat, count]
    · rw [coherent.newest, count, List.length_drop, Array.length_toList]
      omega
  stored cursor lower upper kept := by
    rw [coherent.position_toNat] at lower
    rw [coherent.newest] at upper
    have held : run.held cursor.toNat = run.accepted[cursor.toNat]? := by
      refine coherent.held_eq lower upper fun oldest value stage same => ?_
      exact kept value (Cursor.ext_toNat same ▸ stage)
    rw [coherent.peek_eq (by rw [held, Array.getElem?_eq_getElem upper]; rfl), held]
  ordered := by
    obtain ⟨exits, values, -, received, -⟩ := coherent.accounts
    rw [received]
    refine (filterMap_received?_sublist exits).trans ?_
    rw [values]
    exact List.take_sublist _ _

end Interleaving

theorem Channel.Holds.coherent {channel : Channel α} {overflow : Overflow} {bound : Nat}
    (holds : channel.Holds (Queue.empty overflow bound)) :
    (Interleaving.ofChannel channel).Coherent bound where
  mask := holds.mask
  few := Nat.zero_le _
  newest := holds.newest
  departed_le := Nat.le_refl _
  receiveCache_le := holds.receiveCache_le
  near := Nat.zero_le _
  sendCache_le := holds.sendCache_le
  sending := trivial
  receiving := holds.oldest
  hold := by
    have hold := holds.hold
    have nothing : (Interleaving.ofChannel channel).held = placed 0 [] := by
      funext position
      simp [Interleaving.held, Interleaving.ofChannel, Interleaving.between, SendStage.mark,
        ReceiveStage.mark]
    rw [nothing]
    exact hold
  accounts := ⟨[], rfl, by simp, rfl, rfl⟩

/-- However the accesses of a sender and a receiver follow upon one another, neither
gets in the way of the other.  A receive is only told that it missed an element if the
sender has discarded one since the receive was about to read the receive cursor. -/
theorem Channel.threads_never_collide {overflow : Overflow} {requested : Nat}
    {created : Step α Unit} (made : create overflow requested = .ok created)
    (moves : List (Move α))
    (few : ((Interleaving.ofChannel created.state).follow moves).accepted.size <
      Cursor.horizon) :
    ((Interleaving.ofChannel created.state).follow moves).Safe ∧
      ∀ before during, moves = before ++ during →
        ((Interleaving.ofChannel created.state).follow before).receiving = .readReceive →
        ((Interleaving.ofChannel created.state).follow moves).receiving =
          .idle (some (.error .skipped)) →
        ((Interleaving.ofChannel created.state).follow before).discarded.size <
          ((Interleaving.ofChannel created.state).follow moves).discarded.size := by
  obtain ⟨bound, -, holds⟩ := holds_of_create made
  have coherent := holds.coherent
  refine ⟨(coherent.follow moves (Nat.le_of_lt few)).safe, ?_⟩
  rintro before during rfl begun skipped
  rw [Interleaving.follow_append] at few skipped ⊢
  have early := Interleaving.accepted_le_follow
    ((Interleaving.ofChannel created.state).follow before) during
  have reached := coherent.follow before (Nat.le_trans early (Nat.le_of_lt few))
  exact reached.skipped_since begun during (Nat.le_of_lt few) skipped

/-- A ring for one element.  The receive has seen the first element when the second one
takes its place. -/
theorem Channel.overtaken_receive :
    let start := Interleaving.ofChannel (Channel.ofSize .overwrite 2)
    let before := .startSend 7 :: List.replicate 4 .stepSender ++ [.startReceive]
    let during := .stepReceiver :: .stepReceiver :: .startSend 8 ::
      (List.replicate 8 .stepSender ++ [.stepReceiver])
    let moves : List (Move Nat) := before ++ during
    (start.follow moves).Safe ∧
      (start.follow moves).receiving = .idle (some (.error .skipped)) ∧
      (start.follow before).discarded.size < (start.follow moves).discarded.size := by
  intro start before during moves
  have skipped : (start.follow moves).receiving = .idle (some (.error .skipped)) := by
    simp only [moves, during, before, start]
    rfl
  obtain ⟨safe, since⟩ := @Channel.threads_never_collide Nat .overwrite 2
    ⟨(), .ofSize .overwrite 2, [.noted (.ringCreated 2 2 true)]⟩ rfl moves (by decide)
  exact ⟨safe, skipped, since before during rfl rfl skipped⟩

end Handoff.Ring
