import Handoff.Proofs.Ring.Threads
import Handoff.Proofs.Runs

namespace Handoff.Ring

/-! Two threads on a ring that waits for room.  Nothing is ever discarded, so the receiver
gets what the sender was promised, all of it before it is told that the channel is closed.
-/

/-- The receiver has seen that the channel is closed. -/
def ReceiveStage.knowsClosed : ReceiveStage α → Bool
  | .readSendAgain _ | .idle (some (.error .closed)) => true
  | _ => false

namespace Interleaving

variable {run after : Interleaving α} {bound : Nat} {value : α} {cursor oldest : Cursor}

theorem Coherent.length_eq (coherent : run.Coherent bound) :
    run.memory.length = run.accepted.size - run.departed := by
  have position := coherent.position_toNat
  have newest := coherent.newest
  have departed_le := coherent.departed_le
  have few := coherent.few
  have near := coherent.near_departed
  have distance := Cursor.toNat_distanceTo_of_le
    (show run.memory.receiveCursor.position.toNat ≤ run.memory.sendCursor.toNat by omega)
    (by omega)
  rw [Memory.length, distance, newest, position, Memory.capacity, coherent.mask.toNat_eq]
  omega

/-- What is known of the threads besides, if the ring waits.  The flag is read between the
two times the receiver reads the send cursor, so the cursor that it reads the second time
is the last one. -/
structure Waiting (run : Interleaving α) : Prop where
  waits : run.overflow = .wait
  kept : run.discarded = #[]
  closed : run.memory.closed = true → run.sending = .gone ∨ run.receiving = .gone
  again : ∀ oldest, run.receiving = .readSendAgain oldest → run.sending = .gone
  finished : run.receiving = .idle (some (.error .closed)) →
    run.sending = .gone ∧ run.departed = run.accepted.size

/-! The sending thread. -/

theorem Waiting.moveSender (waiting : run.Waiting) (present : run.sending ≠ .gone)
    (overflow : after.overflow = run.overflow) (kept : after.discarded = run.discarded)
    (receiving : after.receiving = run.receiving)
    (closed : after.memory.closed = run.memory.closed ∨ after.sending = .gone) :
    after.Waiting where
  waits := overflow.trans waiting.waits
  kept := kept.trans waiting.kept
  closed := by
    intro shut
    obtain same | gone := closed
    · right
      rw [receiving]
      exact (waiting.closed (same ▸ shut)).resolve_left present
    · exact .inl gone
  again := by
    intro oldest stage
    rw [receiving] at stage
    exact absurd (waiting.again oldest stage) present
  finished := by
    intro stage
    rw [receiving] at stage
    exact absurd (waiting.finished stage).1 present

theorem Waiting.startSend (waiting : run.Waiting) (value : α) : (run.startSend value).Waiting := by
  unfold Interleaving.startSend
  split
  next last stage => exact waiting.moveSender (by simp [stage]) rfl rfl rfl (.inl rfl)
  next => exact waiting

theorem Waiting.dropSender (waiting : run.Waiting) : run.dropSender.Waiting := by
  unfold Interleaving.dropSender
  split
  next last stage => exact waiting.moveSender (by simp [stage]) rfl rfl rfl (.inr rfl)
  next => exact waiting

theorem Waiting.stepSender (waiting : run.Waiting) (coherent : run.Coherent bound) :
    run.stepSender.Waiting := by
  have knows := coherent.sending
  have waits : run.overflow ≠ .overwrite := by simp [waiting.waits]
  cases stage : run.sending with
  | idle last =>
      simp only [Interleaving.stepSender, stage]
      exact waiting
  | gone =>
      simp only [Interleaving.stepSender, stage]
      exact waiting
  | inspect value cursor =>
      simp only [SenderKnows, stage] at knows
      exact absurd knows.1 waits
  | overtake value cursor oldest =>
      simp only [SenderKnows, stage] at knows
      exact absurd knows.1 waits
  | destroy value cursor oldest =>
      simp only [SenderKnows, stage] at knows
      exact absurd knows.1 waits
  | _ =>
      have present : run.sending ≠ .gone := by simp [stage]
      simp only [Interleaving.stepSender, stage]
      repeat' split
      all_goals exact waiting.moveSender present rfl rfl rfl (.inl rfl)

/-! The receiving thread. -/

theorem Waiting.moveReceiver (waiting : run.Waiting) (present : run.receiving ≠ .gone)
    (overflow : after.overflow = run.overflow) (kept : after.discarded = run.discarded)
    (sending : after.sending = run.sending) (closed : after.memory.closed = run.memory.closed)
    (again : ∀ oldest, after.receiving = .readSendAgain oldest → run.sending = .gone)
    (finished : after.receiving = .idle (some (.error .closed)) →
      run.sending = .gone ∧ after.departed = after.accepted.size) : after.Waiting where
  waits := overflow.trans waiting.waits
  kept := kept.trans waiting.kept
  closed := by
    intro shut
    left
    rw [sending]
    exact (waiting.closed (closed ▸ shut)).resolve_right present
  again := by
    rw [sending]
    exact again
  finished := by
    rw [sending]
    exact finished

/-- A receiver that has not found the flag set learns nothing of the sender. -/
theorem Waiting.goOn (waiting : run.Waiting) (present : run.receiving ≠ .gone)
    (overflow : after.overflow = run.overflow) (kept : after.discarded = run.discarded)
    (sending : after.sending = run.sending) (closed : after.memory.closed = run.memory.closed)
    (unaware : after.receiving.knowsClosed = false) : after.Waiting := by
  refine waiting.moveReceiver present overflow kept sending closed ?_ ?_
  · intro oldest stage
    rw [stage] at unaware
    cases unaware
  · intro stage
    rw [stage] at unaware
    cases unaware

theorem Waiting.startReceive (waiting : run.Waiting) : run.startReceive.Waiting := by
  unfold Interleaving.startReceive
  split
  next last stage => exact waiting.goOn (by simp [stage]) rfl rfl rfl rfl rfl
  next => exact waiting

theorem Waiting.dropReceiver (waiting : run.Waiting) : run.dropReceiver.Waiting := by
  unfold Interleaving.dropReceiver
  split
  next last stage =>
    exact {
      waits := waiting.waits
      kept := waiting.kept
      closed := fun _ => .inr rfl
      again := by intro oldest stage; cases stage
      finished := by intro stage; cases stage }
  next => exact waiting

theorem Waiting.approach (waiting : run.Waiting) (present : run.receiving ≠ .gone)
    (cache oldest : Cursor) :
    (({ run with sendCache := cache } : Interleaving α).approach oldest).Waiting := by
  simp only [Interleaving.approach, waiting.waits]
  exact waiting.goOn present waiting.waits.symm rfl rfl rfl rfl

theorem Coherent.level (coherent : run.Coherent bound) (waits : run.overflow = .wait)
    (stage : run.receiving = .readSend oldest ∨ run.receiving = .readSendAgain oldest) :
    oldest.toNat = run.departed := by
  have knows := coherent.receiving
  obtain stage | stage := stage
  all_goals
    simp only [ReceiverKnows, stage] at knows
    exact knows.2.2 waits

theorem Waiting.readSendAgain (waiting : run.Waiting) (coherent : run.Coherent bound)
    (stage : run.receiving = .readSendAgain oldest) : run.stepReceiver.Waiting := by
  have present : run.receiving ≠ .gone := by simp [stage]
  by_cases same : run.memory.sendCursor = oldest
  · have next : run.stepReceiver = run.refuseReceive .closed := by
      simp [Interleaving.stepReceiver, stage, same]
    have drained : run.departed = run.accepted.size := by
      rw [← coherent.level waiting.waits (.inr stage), ← same, coherent.newest]
    rw [next]
    refine waiting.moveReceiver present rfl rfl rfl rfl ?_ ?_
    · intro later told
      cases told
    · exact fun _ => ⟨waiting.again oldest stage, drained⟩
  · have next : run.stepReceiver =
        ({ run with sendCache := run.memory.sendCursor } : Interleaving α).approach oldest := by
      simp [Interleaving.stepReceiver, stage, same]
    rw [next]
    exact waiting.approach present _ _

theorem Waiting.stepReceiver (waiting : run.Waiting) (coherent : run.Coherent bound) :
    run.stepReceiver.Waiting := by
  obtain gone | present := Classical.em (run.receiving = .gone)
  · simp only [Interleaving.stepReceiver, gone]
    exact waiting
  cases stage : run.receiving with
  | gone => exact absurd stage present
  | idle last =>
      simp only [Interleaving.stepReceiver, stage]
      exact waiting
  | readReceive =>
      simp only [Interleaving.stepReceiver, stage]
      split
      · exact waiting.approach present _ _
      · exact waiting.goOn present rfl rfl rfl rfl rfl
  | readSend oldest =>
      simp only [Interleaving.stepReceiver, stage]
      split
      · exact waiting.goOn present rfl rfl rfl rfl rfl
      · exact waiting.approach present _ _
  | readClosed oldest =>
      simp only [Interleaving.stepReceiver, stage]
      split
      next closed =>
        -- the receiver is still there, so it is the sender that has closed the ring
        have gone := (waiting.closed closed).resolve_right present
        refine waiting.moveReceiver present rfl rfl rfl rfl (fun _ _ => gone) ?_
        intro told
        cases told
      next => exact waiting.goOn present rfl rfl rfl rfl rfl
  | readSendAgain oldest => exact waiting.readSendAgain coherent stage
  | claim oldest =>
      have knows := coherent.receiving
      simp only [ReceiverKnows, stage, waiting.waits] at knows
      cases knows.1
  | take oldest =>
      simp only [Interleaving.stepReceiver, stage]
      split
      all_goals exact waiting.goOn present rfl rfl rfl rfl rfl
  | release oldest value =>
      simp only [Interleaving.stepReceiver, stage]
      exact waiting.goOn present rfl rfl rfl rfl rfl

theorem Waiting.move (waiting : run.Waiting) (coherent : run.Coherent bound) (next : Move α) :
    (run.move next).Waiting := by
  cases next with
  | startSend value => exact waiting.startSend value
  | stepSender => exact waiting.stepSender coherent
  | dropSender => exact waiting.dropSender
  | startReceive => exact waiting.startReceive
  | stepReceiver => exact waiting.stepReceiver coherent
  | dropReceiver => exact waiting.dropReceiver

theorem Waiting.follow (waiting : run.Waiting) (coherent : run.Coherent bound)
    (moves : List (Move α)) (few : (run.follow moves).accepted.size ≤ Cursor.horizon) :
    (run.follow moves).Waiting := by
  induction moves generalizing run with
  | nil => exact waiting
  | cons next rest ih =>
      have soFar := Nat.le_trans (accepted_le_follow (run.move next) rest) few
      exact ih (waiting.move coherent next) (coherent.move next soFar) few

/-! What a call is told about the ring was so at some moment of the call. -/

@[simp] theorem approach_sending (run : Interleaving α) (oldest : Cursor) :
    (run.approach oldest).sending = run.sending := by
  unfold Interleaving.approach
  split <;> rfl

theorem stepReceiver_sending (run : Interleaving α) :
    run.stepReceiver.sending = run.sending := by
  cases stage : run.receiving
  all_goals
    simp only [Interleaving.stepReceiver, stage]
    repeat' split
    all_goals simp [refuseReceive]

/-- Within a call, only its own accesses take the sending thread further. -/
theorem eq_stepSender {next : Move α} (changed : (run.move next).sending ≠ run.sending)
    (inside : ∀ value, (run.move next).sending ≠ .readClosed value)
    (present : (run.move next).sending ≠ .gone) : next = .stepSender := by
  cases next with
  | startSend value =>
      obtain begun | same : (run.startSend value).sending = .readClosed value ∨
          (run.startSend value).sending = run.sending := by
        unfold Interleaving.startSend
        split <;> simp
      · exact absurd begun (inside value)
      · exact absurd same changed
  | stepSender => rfl
  | dropSender =>
      obtain gone | same : run.dropSender.sending = .gone ∨
          run.dropSender.sending = run.sending := by
        unfold Interleaving.dropSender
        split <;> simp
      · exact absurd gone present
      · exact absurd same changed
  | startReceive =>
      simp only [Interleaving.move, Interleaving.startReceive] at changed
      split at changed <;> exact absurd rfl changed
  | stepReceiver => exact absurd run.stepReceiver_sending changed
  | dropReceiver =>
      simp only [Interleaving.move, Interleaving.dropReceiver] at changed
      split at changed <;> exact absurd rfl changed

theorem eq_stepReceiver {next : Move α} (changed : (run.move next).receiving ≠ run.receiving)
    (inside : (run.move next).receiving ≠ .readReceive)
    (present : (run.move next).receiving ≠ .gone) : next = .stepReceiver := by
  cases next with
  | startSend value => exact absurd (run.grows_startSend value).receiving changed
  | stepSender => exact absurd run.grows_stepSender.receiving changed
  | dropSender => exact absurd run.grows_dropSender.receiving changed
  | startReceive =>
      obtain begun | same : run.startReceive.receiving = .readReceive ∨
          run.startReceive.receiving = run.receiving := by
        unfold Interleaving.startReceive
        split <;> simp
      · exact absurd begun inside
      · exact absurd same changed
  | stepReceiver => rfl
  | dropReceiver =>
      obtain gone | same : run.dropReceiver.receiving = .gone ∨
          run.dropReceiver.receiving = run.receiving := by
        unfold Interleaving.dropReceiver
        split <;> simp
      · exact absurd gone present
      · exact absurd same changed

/-- A send is refused for want of room by the very access that finds the ring full. -/
theorem Coherent.full_of_refused (coherent : run.Coherent bound)
    (earlier : run.sending ≠ .idle (some (.error (.full value))))
    (refused : run.stepSender.sending = .idle (some (.error (.full value)))) :
    run.memory.length = bound := by
  have knows := coherent.sending
  cases stage : run.sending with
  | idle last | gone =>
      have next : run.stepSender = run := by simp [Interleaving.stepSender, stage]
      exact absurd (next ▸ refused) earlier
  | refresh value cursor =>
      simp only [SenderKnows, stage] at knows
      have position := coherent.position_toNat
      have full_iff := coherent.full_iff knows (Nat.le_of_eq position)
      simp only [Interleaving.stepSender, stage] at refused
      split at refused
      next full =>
        have far := full_iff.mp full
        rw [coherent.length_eq]
        omega
      next => cases refused
  | inspect value cursor =>
      simp only [Interleaving.stepSender, stage] at refused
      split at refused
      · exact absurd refused earlier
      · split at refused <;> cases refused
  | _ =>
      simp only [Interleaving.stepSender, stage] at refused
      repeat' split at refused
      all_goals cases refused

/-- The receiver goes on to look at the flag only if it has found the ring empty. -/
theorem Coherent.drained_of_readClosed (coherent : run.Coherent bound)
    (waits : run.overflow = .wait) (earlier : ∀ oldest, run.receiving ≠ .readClosed oldest)
    (reads : run.stepReceiver.receiving = .readClosed oldest) :
    run.memory.length = 0 := by
  cases stage : run.receiving with
  | readClosed oldest => exact absurd stage (earlier oldest)
  | readSend oldest =>
      simp only [Interleaving.stepReceiver, stage] at reads
      split at reads
      next same =>
        have drained : run.departed = run.accepted.size := by
          rw [← coherent.level waits (.inl stage), ← same, coherent.newest]
        rw [coherent.length_eq, drained, Nat.sub_self]
      next => simp [Interleaving.approach, waits] at reads
  | _ =>
      simp only [Interleaving.stepReceiver, stage, Interleaving.approach, waits] at reads
      repeat' split at reads
      all_goals cases reads

/-- An element that the receiver goes for is there, so it is told that there is none only if
the flag was not set. -/
theorem Coherent.readClosed_of_empty (coherent : run.Coherent bound)
    (earlier : run.receiving ≠ .idle (some (.error .empty)))
    (refused : run.stepReceiver.receiving = .idle (some (.error .empty))) :
    ∃ oldest, run.receiving = .readClosed oldest := by
  cases stage : run.receiving with
  | idle last | gone =>
      have next : run.stepReceiver = run := by simp [Interleaving.stepReceiver, stage]
      exact absurd (next ▸ refused) earlier
  | readClosed oldest => exact ⟨oldest, rfl⟩
  | take oldest =>
      obtain ⟨element, found, -⟩ := coherent.peek_take stage
      have taken : (run.memory.take oldest).1 = some element := found
      simp only [Interleaving.stepReceiver, stage, taken] at refused
      cases refused
  | _ =>
      simp only [Interleaving.stepReceiver, stage, Interleaving.approach] at refused
      repeat' split at refused
      all_goals cases refused

/-! The calls of a run. -/

theorem few_early {early late : List (Move α)}
    (few : (run.follow (early ++ late)).accepted.size ≤ Cursor.horizon) :
    (run.follow early).accepted.size ≤ Cursor.horizon := by
  rw [follow_append] at few
  exact Nat.le_trans (accepted_le_follow _ late) few

theorem Coherent.full_during (coherent : run.Coherent bound) {offered : α}
    (begun : run.sending = .readClosed offered) (during : List (Move α))
    (few : (run.follow during).accepted.size ≤ Cursor.horizon)
    (refused : (run.follow during).sending = .idle (some (.error (.full value)))) :
    ∃ early late, during = early ++ late ∧ (run.follow early).memory.length = bound := by
  obtain ⟨early, next, late, rfl, before, after⟩ :=
    exists_change (fun run : Interleaving α => run.sending = .idle (some (.error (.full value))))
      during (by simp [begun]) refused
  have reached := coherent.follow early (few_early few)
  obtain rfl : next = .stepSender :=
    eq_stepSender (fun same => before (same.symm.trans after)) (by simp [after]) (by simp [after])
  exact ⟨early, _, rfl, reached.full_of_refused before after⟩

theorem Coherent.drained_during (coherent : run.Coherent bound) (waiting : run.Waiting)
    (begun : run.receiving = .readReceive) (during : List (Move α))
    (few : (run.follow during).accepted.size ≤ Cursor.horizon)
    (refused : (run.follow during).receiving = .idle (some (.error .empty))) :
    ∃ early late, during = early ++ late ∧ (run.follow early).memory.length = 0 := by
  obtain ⟨looking, next, rest, rfl, before, after⟩ :=
    exists_change (fun run : Interleaving α => run.receiving = .idle (some (.error .empty)))
      during (by simp [begun]) refused
  obtain rfl : next = .stepReceiver :=
    eq_stepReceiver (fun same => before (same.symm.trans after)) (by simp [after]) (by simp [after])
  have lookedFew := few_early few
  have looked := (coherent.follow looking lookedFew).readClosed_of_empty before after
  -- the ring was empty when the receiver went on to read the flag
  obtain ⟨early, next, late, rfl, unasked, oldest, asks⟩ :=
    exists_change (fun run : Interleaving α => ∃ oldest, run.receiving = .readClosed oldest)
      looking (by simp [begun]) looked
  obtain rfl : next = .stepReceiver :=
    eq_stepReceiver (fun same => unasked ⟨oldest, same.symm.trans asks⟩) (by simp [asks])
      (by simp [asks])
  have earlyFew := few_early lookedFew
  have reached := coherent.follow early earlyFew
  have waits := (waiting.follow coherent early earlyFew).waits
  refine ⟨early, .stepReceiver :: late ++ .stepReceiver :: rest, by simp, ?_⟩
  exact reached.drained_of_readClosed waits (fun oldest stage => unasked ⟨oldest, stage⟩) asks

/-- What a sender and a receiver can rely on after a run. -/
structure Lossless (start : Interleaving α) (moves : List (Move α)) (bound : Nat) : Prop where
  ordered : (start.follow moves).received.toList <+: (start.follow moves).accepted.toList
  within : (start.follow moves).accepted.size ≤ (start.follow moves).received.size + bound
  finished : (start.follow moves).receiving = .idle (some (.error .closed)) →
    (start.follow moves).sending = .gone ∧
      (start.follow moves).received = (start.follow moves).accepted
  full : ∀ before during offered refused, moves = before ++ during →
    (start.follow before).sending = .readClosed offered →
    (start.follow moves).sending = .idle (some (.error (.full refused))) →
    ∃ early late, during = early ++ late ∧
      (start.follow (before ++ early)).memory.length = bound
  empty : ∀ before during, moves = before ++ during →
    (start.follow before).receiving = .readReceive →
    (start.follow moves).receiving = .idle (some (.error .empty)) →
    ∃ early late, during = early ++ late ∧
      (start.follow (before ++ early)).memory.length = 0

theorem filterMap_received?_eq {exits : List (Exit α)}
    (unfreed : ∀ exit ∈ exits, exit.isFreed = false)
    (kept : exits.filterMap Exit.overwritten? = []) :
    exits.filterMap Exit.received? = exits.map Exit.value := by
  induction exits with
  | nil => rfl
  | cons exit rest ih =>
      obtain ⟨first, others⟩ := List.forall_mem_cons.mp unfreed
      cases exit with
      | received value => exact congrArg (value :: ·) (ih others kept)
      | overwritten value cursor => cases kept
      | freed value => cases first

theorem Waiting.departed_eq (waiting : run.Waiting) : run.departed = run.received.size := by
  rw [Interleaving.departed, waiting.kept, Array.size_empty, Nat.add_zero]

theorem Waiting.received_eq (waiting : run.Waiting) (coherent : run.Coherent bound) :
    run.received.toList = run.accepted.toList.take run.received.size := by
  obtain ⟨exits, values, unfreed, received, discarded⟩ := coherent.accounts
  rw [waiting.kept] at discarded
  rw [← waiting.departed_eq, ← values, received]
  exact filterMap_received?_eq unfreed discarded.symm

theorem Waiting.received_of_closed (waiting : run.Waiting) (coherent : run.Coherent bound)
    (told : run.receiving = .idle (some (.error .closed))) :
    run.sending = .gone ∧ run.received = run.accepted := by
  obtain ⟨gone, drained⟩ := waiting.finished told
  have received := waiting.received_eq coherent
  rw [← waiting.departed_eq, drained, ← Array.length_toList, List.take_length] at received
  exact ⟨gone, Array.toList_inj.mp received⟩

theorem Waiting.lossless (waiting : run.Waiting) (coherent : run.Coherent bound)
    (moves : List (Move α)) (few : (run.follow moves).accepted.size ≤ Cursor.horizon) :
    run.Lossless moves bound where
  ordered := by
    rw [(waiting.follow coherent moves few).received_eq (coherent.follow moves few)]
    exact List.take_prefix _ _
  within := by
    rw [← (waiting.follow coherent moves few).departed_eq]
    exact (coherent.follow moves few).near_departed
  finished := (waiting.follow coherent moves few).received_of_closed (coherent.follow moves few)
  full := by
    rintro before during offered refused rfl begun told
    have soFar := coherent.follow before (few_early few)
    simp only [follow_append] at few told ⊢
    exact soFar.full_during begun during few told
  empty := by
    rintro before during rfl begun told
    have soFar := coherent.follow before (few_early few)
    have waited := waiting.follow coherent before (few_early few)
    simp only [follow_append] at few told ⊢
    exact soFar.drained_during waited begun during few told

end Interleaving

theorem Channel.Holds.waiting {channel : Channel α} {bound : Nat}
    (holds : channel.Holds (Queue.empty .wait bound)) :
    (Interleaving.ofChannel channel).Waiting where
  waits := holds.overflow
  kept := rfl
  closed := by
    intro closed
    cases holds.closed.symm.trans closed
  again := by intro oldest stage; cases stage
  finished := by intro stage; cases stage

/-- However the accesses of a sender and a receiver of a ring that waits follow upon one
another, the receiver gets what was accepted, in that order and with at most `bound`
elements to come.  `Full`, `Empty` and `Closed` mean what they say. -/
theorem Channel.waiting_threads_lossless {requested : Nat} {created : Step α Unit}
    (made : create .wait requested = .ok created) (moves : List (Move α))
    (few : ((Interleaving.ofChannel created.state).follow moves).accepted.size <
      Cursor.horizon) :
    ∃ bound, ringSize? requested = some (bound + 1) ∧
      ((Interleaving.ofChannel created.state).follow moves).Safe ∧
      (Interleaving.ofChannel created.state).Lossless moves bound := by
  obtain ⟨bound, size, holds⟩ := holds_of_create made
  have coherent := holds.coherent
  have within := Nat.le_of_lt few
  exact ⟨bound, size, (coherent.follow moves within).safe,
    holds.waiting.lossless coherent moves within⟩

/-- A ring for one element.  The second element is refused, the first one is received, and
then there is nothing to receive, for now and in the end for good. -/
theorem Channel.refused_drained_closed :
    let start := Interleaving.ofChannel (Channel.ofSize .wait 2)
    let refused : List (Move Nat) :=
      .startSend 7 :: List.replicate 4 .stepSender ++ .startSend 8 :: List.replicate 3 .stepSender
    let drained := refused ++ .startReceive :: List.replicate 4 .stepReceiver ++
      .startReceive :: List.replicate 3 .stepReceiver
    let moves := drained ++ .dropSender :: .startReceive :: List.replicate 4 .stepReceiver
    (start.follow refused).sending = .idle (some (.error (.full 8))) ∧
      (start.follow drained).receiving = .idle (some (.error .empty)) ∧
      (start.follow moves).receiving = .idle (some (.error .closed)) ∧
      (start.follow moves).Safe ∧ (start.follow moves).sending = .gone ∧
      (start.follow moves).received = (start.follow moves).accepted := by
  intro start refused drained moves
  have full : (start.follow refused).sending = .idle (some (.error (.full 8))) := by
    simp only [refused, start]
    rfl
  have empty : (start.follow drained).receiving = .idle (some (.error .empty)) := by
    simp only [drained, refused, start]
    rfl
  have closed : (start.follow moves).receiving = .idle (some (.error .closed)) := by
    simp only [moves, drained, refused, start]
    rfl
  obtain ⟨bound, -, safe, lossless⟩ := @Channel.waiting_threads_lossless Nat 2
    ⟨(), .ofSize .wait 2, [.noted (.ringCreated 2 2 false)]⟩ rfl moves (by decide)
  obtain ⟨gone, received⟩ := lossless.finished closed
  exact ⟨full, empty, closed, safe, gone, received⟩

end Handoff.Ring
