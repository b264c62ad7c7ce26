import Handoff.Proofs.Ring.Alone
import Handoff.Proofs.Ring.Threads

namespace Handoff.Ring

/-! A receiver that is told that it missed an element.  The sender, which has taken that
element away, has put another one in the ring or is about to, so that the receiver will get
one when it tries again and is left alone.
-/

/-- The next accesses of the sender put its value in the ring, whatever the receiver does. -/
def SendStage.settled : SendStage α → Bool
  | .destroy .. | .write .. | .publish .. => true
  | _ => false

namespace Interleaving

/-- There is an element to receive, or there will be without anybody's help. -/
def Stocked (run : Interleaving α) : Prop :=
  run.departed < run.accepted.size ∨ run.sending.settled = true

/-- A receiver that is overtaken does not go away empty. -/
def Consoles (run : Interleaving α) : Prop :=
  match run.receiving with
  | .readSend oldest | .readClosed oldest | .readSendAgain oldest | .claim oldest =>
      oldest.toNat < run.departed → run.Stocked
  | .idle (some (.error .skipped)) => run.Stocked
  | _ => True

variable {run after : Interleaving α} {bound : Nat} {oldest : Cursor}

/-! The sender. -/

/-- The sender replaces what it takes away. -/
structure Replaces (before after : Interleaving α) : Prop where
  receiving : after.receiving = before.receiving
  stocked : before.Stocked → after.Stocked
  departed : before.departed < after.departed → after.Stocked

theorem Replaces.of_counts (receiving : after.receiving = run.receiving)
    (accepted : after.accepted = run.accepted) (departed : after.departed = run.departed)
    (settled : run.sending.settled = true → after.sending.settled = true) :
    run.Replaces after where
  receiving := receiving
  stocked stocked := by
    rw [Stocked, accepted, departed]
    exact stocked.imp_right settled
  departed fewer := absurd departed (Nat.ne_of_gt fewer)

theorem replaces_startSend (run : Interleaving α) (value : α) :
    run.Replaces (run.startSend value) := by
  unfold startSend
  split
  · next stage => exact .of_counts rfl rfl rfl (by simp [stage, SendStage.settled])
  · exact .of_counts rfl rfl rfl id

theorem replaces_dropSender (run : Interleaving α) : run.Replaces run.dropSender := by
  unfold dropSender
  split
  · next stage => exact .of_counts rfl rfl rfl (by simp [stage, SendStage.settled])
  · exact .of_counts rfl rfl rfl id

theorem Coherent.replaces_stepSender (coherent : run.Coherent bound) :
    run.Replaces run.stepSender := by
  cases stage : run.sending with
  | overtake value cursor oldest =>
      simp only [Interleaving.stepSender, stage]
      split
      · exact ⟨rfl, fun _ => .inr rfl, fun _ => .inr rfl⟩
      · exact .of_counts rfl rfl rfl (by simp [stage, SendStage.settled])
  | publish value cursor =>
      have inside := coherent.departed_le
      simp only [Interleaving.stepSender, stage]
      refine ⟨rfl, fun _ => .inl ?_, fun _ => .inl ?_⟩
      all_goals
        rw [Array.size_push]
        exact Nat.lt_succ_of_le inside
  | destroy value cursor oldest =>
      simp only [Interleaving.stepSender, stage]
      exact .of_counts rfl rfl rfl fun _ => rfl
  | write value cursor =>
      simp only [Interleaving.stepSender, stage]
      exact .of_counts rfl rfl rfl fun _ => rfl
  | _ =>
      simp only [Interleaving.stepSender, stage]
      repeat' split
      all_goals exact .of_counts rfl rfl rfl (by simp [stage, SendStage.settled])

theorem Consoles.replaces (consoles : run.Consoles) (replaces : run.Replaces after) :
    after.Consoles := by
  have behind {oldest : Cursor} (told : oldest.toNat < run.departed → run.Stocked)
      (late : oldest.toNat < after.departed) : after.Stocked := by
    by_cases already : oldest.toNat < run.departed
    · exact replaces.stocked (told already)
    · exact replaces.departed (Nat.lt_of_le_of_lt (Nat.le_of_not_lt already) late)
  simp only [Consoles, replaces.receiving] at consoles ⊢
  split at consoles
  · exact behind consoles
  · exact behind consoles
  · exact behind consoles
  · exact behind consoles
  · exact replaces.stocked consoles
  · trivial

/-! The receiver. -/

theorem consoles_approach (told : oldest.toNat < run.departed → run.Stocked) :
    (run.approach oldest).Consoles := by
  unfold approach
  split
  · trivial
  · exact told

theorem Consoles.stepReceiver (consoles : run.Consoles) (coherent : run.Coherent bound) :
    run.stepReceiver.Consoles := by
  have knows := coherent.receiving
  cases stage : run.receiving with
  | idle last =>
      simp only [Interleaving.stepReceiver, stage]
      exact consoles
  | gone =>
      simp only [Interleaving.stepReceiver, stage]
      exact consoles
  | readReceive =>
      simp only [ReceiverKnows, stage] at knows
      have level : run.memory.receiveCursor.toNat < run.departed → run.Stocked :=
        fun late => absurd knows (Nat.ne_of_lt late)
      simp only [Interleaving.stepReceiver, stage]
      split
      · exact consoles_approach level
      · exact level
  | readSend oldest =>
      simp only [Consoles, stage] at consoles
      simp only [Interleaving.stepReceiver, stage]
      split
      · exact consoles
      · exact consoles_approach consoles
  | readClosed oldest =>
      simp only [Consoles, stage] at consoles
      simp only [Interleaving.stepReceiver, stage]
      split
      · exact consoles
      · trivial
  | readSendAgain oldest =>
      simp only [Consoles, stage] at consoles
      simp only [Interleaving.stepReceiver, stage]
      split
      · trivial
      · exact consoles_approach consoles
  | claim oldest =>
      simp only [Consoles, stage] at consoles
      simp only [ReceiverKnows, stage] at knows
      by_cases same : run.memory.receiveCursor = oldest
      · simp [Interleaving.stepReceiver, stage, Memory.exchangeReceive?, same, Consoles]
      · -- the sender has moved the receive cursor on, past what was read
        have moved : run.memory.receiveCursor.toNat ≠ oldest.toNat :=
          fun level => same (Cursor.ext_toNat level)
        simp only [Interleaving.stepReceiver, stage, Memory.exchangeReceive?, if_neg same]
        exact consoles (by omega)
  | take oldest =>
      simp only [Interleaving.stepReceiver, stage]
      split <;> trivial
  | release oldest value =>
      simp only [Interleaving.stepReceiver, stage]
      trivial

theorem Consoles.move (consoles : run.Consoles) (coherent : run.Coherent bound) (next : Move α) :
    (run.move next).Consoles := by
  cases next with
  | startSend value => exact consoles.replaces (run.replaces_startSend value)
  | stepSender => exact consoles.replaces coherent.replaces_stepSender
  | dropSender => exact consoles.replaces run.replaces_dropSender
  | startReceive =>
      simp only [Interleaving.move, startReceive]
      split
      · trivial
      · exact consoles
  | stepReceiver => exact consoles.stepReceiver coherent
  | dropReceiver =>
      simp only [Interleaving.move, dropReceiver]
      split
      · trivial
      · exact consoles

theorem Consoles.follow (consoles : run.Consoles) (coherent : run.Coherent bound)
    (moves : List (Move α)) (few : (run.follow moves).accepted.size ≤ Cursor.horizon) :
    (run.follow moves).Consoles := by
  induction moves generalizing run with
  | nil => exact consoles
  | cons next rest ih =>
      have early := Nat.le_trans (accepted_le_follow (run.move next) rest) few
      exact ih (consoles.move coherent next) (coherent.move next early) few

/-! The next attempt. -/

/-- Where there is an element, a receiver that is left alone gets it. -/
theorem Coherent.receiveAlone_of_inside {last : Option (Except TryReceiveError α)}
    (coherent : run.Coherent bound) (idle : run.receiving = .idle last)
    (inside : run.departed < run.accepted.size) :
    ∃ item, run.receiveAlone.receiving = .idle (some (.ok item)) := by
  have level : run.memory.receiveCursor.toNat = run.departed := by
    simpa [ReceiverKnows, idle] using coherent.receiving
  obtain ⟨item, found⟩ : ∃ item, run.memory.peek run.memory.receiveCursor = some item := by
    have present : (run.held run.memory.receiveCursor.toNat).isSome := by
      rw [level, coherent.held_eq (Nat.le_refl _) inside (by simp [idle]),
        Array.getElem?_eq_getElem inside]
      rfl
    obtain ⟨item, found⟩ := Option.isSome_iff_exists.mp present
    exact ⟨item, (coherent.peek_eq present).trans found⟩
  have different : run.memory.sendCursor ≠ run.memory.receiveCursor := by
    intro same
    have newest := coherent.newest
    rw [same, level] at newest
    omega
  have attempt (stage : ReceiveStage α) (cache : Cursor) (count : Nat) :=
    @stepsOfReceiver_approach _ { run with receiving := stage, sendCache := cache } item _ rfl
      found count
  let start := { run with receiving := .readReceive }
  have begun : run.startReceive = start := by simp [Interleaving.startReceive, idle, start]
  refine ⟨item, ?_⟩
  rw [receiveAlone, begun]
  by_cases stocked : start.seemsStocked run.memory.receiveCursor = true
  · have first : start.stepReceiver = start.approach run.memory.receiveCursor := if_pos stocked
    rw [stepsOfReceiver, first]
    exact congrArg Interleaving.receiving (attempt _ _ 3)
  · let looked := { run with receiving := .readSend run.memory.receiveCursor }
    have first : start.stepReceiver = looked := if_neg stocked
    have second : looked.stepReceiver =
        { looked with sendCache := run.memory.sendCursor }.approach run.memory.receiveCursor :=
      if_neg different
    rw [stepsOfReceiver, first, stepsOfReceiver, second]
    exact congrArg Interleaving.receiving (attempt _ _ 2)

/-- A sender that is about to put its value in the ring does so in three accesses. -/
theorem Coherent.inside_of_stocked (coherent : run.Coherent bound) (stocked : run.Stocked) :
    ∃ count ≤ 3, (stepsOfSender count run).receiving = run.receiving ∧
      (stepsOfSender count run).departed < (stepsOfSender count run).accepted.size ∧
      (stepsOfSender count run).accepted.size ≤ run.accepted.size + 1 := by
  obtain inside | settled := stocked
  · exact ⟨0, Nat.zero_le 3, rfl, inside, Nat.le_succ _⟩
  · have departed := Nat.lt_succ_of_le coherent.departed_le
    cases stage : run.sending with
    | destroy value cursor oldest =>
        refine ⟨3, Nat.le_refl 3, ?_⟩
        simpa [stepsOfSender, Interleaving.stepSender, stage, Interleaving.departed] using departed
    | write value cursor =>
        refine ⟨2, by decide, ?_⟩
        simpa [stepsOfSender, Interleaving.stepSender, stage, Interleaving.departed] using departed
    | publish value cursor =>
        refine ⟨1, by decide, ?_⟩
        simpa [stepsOfSender, Interleaving.stepSender, stage, Interleaving.departed] using departed
    | _ => simp [stage, SendStage.settled] at settled

theorem stepsOfSender_eq_follow (count : Nat) (run : Interleaving α) :
    stepsOfSender count run = run.follow (List.replicate count .stepSender) := by
  induction count generalizing run with
  | zero => rfl
  | succ count ih => exact ih run.stepSender

end Interleaving

open Interleaving

/-- Once the sender has come to rest, a receiver that has missed an element gets the next
one, and at most three accesses of the sender are missing for that. -/
theorem Channel.received_after_skipped {overflow : Overflow} {requested : Nat}
    {created : Step α Unit} (made : create overflow requested = .ok created)
    (moves : List (Move α))
    (few : ((ofChannel created.state).follow moves).accepted.size < Cursor.horizon)
    (skipped : ((ofChannel created.state).follow moves).receiving =
      .idle (some (.error .skipped))) :
    ∃ count ≤ 3, ∃ item,
      (stepsOfSender count ((ofChannel created.state).follow moves)).receiveAlone.receiving =
        .idle (some (.ok item)) := by
  obtain ⟨bound, -, holds⟩ := holds_of_create made
  have start : (ofChannel created.state).Consoles := trivial
  have consoles := start.follow holds.coherent moves (Nat.le_of_lt few)
  have coherent := holds.coherent.follow moves (Nat.le_of_lt few)
  simp only [Consoles, skipped] at consoles
  obtain ⟨count, within, still, inside, more⟩ := coherent.inside_of_stocked consoles
  have rested : (stepsOfSender count ((ofChannel created.state).follow moves)).Coherent bound := by
    rw [stepsOfSender_eq_follow] at more ⊢
    exact coherent.follow _ (Nat.le_trans more few)
  exact ⟨count, within, rested.receiveAlone_of_inside (still.trans skipped) inside⟩

end Handoff.Ring
