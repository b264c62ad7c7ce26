import Handoff.Proofs.Runs
import Handoff.Proofs.Wake.Attended

namespace Handoff.Wake

/-! The threads in any order of their steps.  A run is a list of moves: a thread begins to
wait or to notify, or makes its next step.
-/

inductive Move (κ : Type u) where
  | startWait (goal : κ → Bool)
  | stepWaiter
  | startNotify (index : Nat) (update : κ → κ)
  | stepNotifier (index : Nat)

/-- The thread has swapped the signal and is still at its notification. -/
def NotifyStage.isTaking : NotifyStage κ → Bool
  | .take _ => true
  | _ => false

namespace WakeThreads

def move (threads : WakeThreads κ) : Move κ → WakeThreads κ
  | .startWait goal => threads.startWait goal
  | .stepWaiter => threads.stepWaiter
  | .startNotify index update => threads.startNotify index update
  | .stepNotifier index => threads.stepNotifier index

def follow (threads : WakeThreads κ) (moves : List (Move κ)) : WakeThreads κ :=
  moves.foldl move threads

/-- Before the first wait.  The thread may have been unparked by somebody else already. -/
def atRest (token : Bool) (condition : κ) (notifiers : Nat) : WakeThreads κ where
  token := token
  condition := condition
  notifying := List.replicate notifiers .idle

variable {threads : WakeThreads κ} {moves : List (Move κ)} {index : Nat}

theorem follow_append (threads : WakeThreads κ) (first second : List (Move κ)) :
    threads.follow (first ++ second) = (threads.follow first).follow second :=
  List.foldl_append

theorem follow_append_cons (threads : WakeThreads κ) (early : List (Move κ)) (next : Move κ)
    (late : List (Move κ)) :
    threads.follow (early ++ next :: late) = ((threads.follow early).move next).follow late :=
  threads.follow_append early (next :: late)

theorem attended_atRest (token : Bool) (condition : κ) (notifiers : Nat) :
    (atRest token condition notifiers).Attended := by
  have taker (index : Nat) : (atRest token condition notifiers).taker index = .done none := by
    simp only [taker, atRest, List.getElem?_replicate]
    split <;> rfl
  exact {
    guarded := Parker.guarded_of_free (fun index => by rw [taker]; rfl)
      ParkerLock.idle_ne_taken rfl trivial
    begun := by simp [atRest]
    findable := by simp [atRest, WaitStage.registered]
    answered := by simp [atRest, WaitStage.announced] }

theorem Attended.move (attended : threads.Attended) (next : Move κ) :
    (threads.move next).Attended := by
  cases next with
  | startWait goal => exact attended.startWait goal
  | stepWaiter => exact attended.stepWaiter
  | startNotify index update => exact attended.startNotify index update
  | stepNotifier index => exact attended.stepNotifier index

theorem Attended.follow (attended : threads.Attended) (moves : List (Move κ)) :
    (threads.follow moves).Attended := by
  induction moves generalizing threads with
  | nil => exact attended
  | cons next rest ih => exact ih (attended.move next)

/-- A parked thread that nobody is about to unpark waits with its handle in the slot. -/
theorem Attended.signal_and_slot_of_parked (attended : threads.Attended)
    (parked : threads.waiting = .park) (clear : threads.token = false)
    (outside : ∀ stage ∈ threads.notifying, stage.isTaking = false) :
    threads.notifier.signal = .waiting ∧ threads.notifier.parker.slot = some .waiter := by
  have taker (index : Nat) : threads.taker index = .done none := by
    cases standing : threads.notifying[index]? with
    | none => simp [WakeThreads.taker, standing]
    | some stage =>
        have free := outside stage (List.mem_of_getElem? standing)
        rw [taker_of_stage standing]
        cases stage with
        | take taking => cases free
        | _ => rfl
  have unset : ¬threads.token = true := by simp [clear]
  constructor
  · obtain waiting | ⟨_, token | ⟨index, wakes⟩⟩ := attended.answered (by rw [parked]; rfl)
    · exact waiting
    · exact absurd token unset
    · rw [taker] at wakes
      cases wakes
  · obtain token | slot | ⟨index, carries⟩ := attended.findable (by rw [parked]; rfl)
    · exact absurd token unset
    · obtain ⟨handle, slot⟩ := Option.isSome_iff_exists.mp slot
      exact slot
    · rw [taker] at carries
      cases carries

/-! What a move can do to a thread that is parked, or is about to park. -/

theorem stepNotify_leaves (threads : WakeThreads κ) (stage : NotifyStage κ) :
    (threads.stepNotify stage).1.waiting = threads.waiting ∧
      (threads.notifier.signal = .notified →
        (threads.stepNotify stage).1.notifier.signal = .notified) := by
  cases stage with
  | idle => exact ⟨rfl, id⟩
  | change update => exact ⟨rfl, id⟩
  | exchange => exact ⟨rfl, fun _ => rfl⟩
  | take taking => cases taking <;> exact ⟨rfl, id⟩

theorem stepNotifier_leaves (threads : WakeThreads κ) (index : Nat) :
    (threads.stepNotifier index).waiting = threads.waiting ∧
      (threads.notifier.signal = .notified →
        (threads.stepNotifier index).notifier.signal = .notified) := by
  unfold stepNotifier
  split
  next stage _ => exact threads.stepNotify_leaves stage
  next => exact ⟨rfl, id⟩

theorem startNotify_leaves (threads : WakeThreads κ) (index : Nat) (update : κ → κ) :
    (threads.startNotify index update).waiting = threads.waiting ∧
      (threads.startNotify index update).notifier = threads.notifier := by
  unfold startNotify
  split <;> exact ⟨rfl, rfl⟩

/-- Only an evaluation that fails leads to parking. -/
theorem evaluates_of_parks {next : Move κ} (before : threads.waiting ≠ .park)
    (after : (threads.move next).waiting = .park) :
    next = .stepWaiter ∧ threads.waiting = .evaluateAgain ∧ threads.holds = false := by
  cases next with
  | startWait goal =>
      simp only [move, startWait] at after
      split at after
      · cases after
      · exact absurd after before
  | stepWaiter =>
      cases standing : threads.waiting with
      | evaluateAgain =>
          simp only [move, stepWaiter, standing] at after
          split at after
          · cases after
          · exact ⟨rfl, rfl, Bool.eq_false_iff.mpr ‹_›⟩
      | park => exact absurd standing before
      | idle | disarm | acknowledge =>
          simp only [move, stepWaiter, standing] at after
          cases after
      | _ =>
          simp only [move, stepWaiter, standing] at after
          split at after <;> cases after
  | startNotify index update =>
      obtain ⟨waiting, -⟩ := threads.startNotify_leaves index update
      exact absurd (waiting.symm.trans after) before
  | stepNotifier index =>
      obtain ⟨waiting, -⟩ := threads.stepNotifier_leaves index
      exact absurd (waiting.symm.trans after) before

/-- While the thread is parked, a notification stays. -/
theorem notified_move (parked : threads.waiting = .park)
    (notified : threads.notifier.signal = .notified) (next : Move κ) :
    (threads.move next).notifier.signal = .notified := by
  cases next with
  | startWait goal =>
      simp only [move, startWait, parked]
      exact notified
  | stepWaiter =>
      simp only [move, stepWaiter, parked]
      split <;> exact notified
  | startNotify index update =>
      simp only [move, (threads.startNotify_leaves index update).2]
      exact notified
  | stepNotifier index => exact (threads.stepNotifier_leaves index).2 notified

theorem notified_follow
    (parked : ∀ early late, moves = early ++ late → (threads.follow early).waiting = .park)
    (notified : threads.notifier.signal = .notified) :
    (threads.follow moves).notifier.signal = .notified := by
  induction moves generalizing threads with
  | nil => exact notified
  | cons next rest ih =>
      refine ih ?_ (notified_move (parked [] (next :: rest) rfl) notified next)
      rintro early late rfl
      exact parked (next :: early) late rfl

theorem notified_of_swap (swaps : threads.notifying[index]? = some .exchange) :
    (threads.stepNotifier index).notifier.signal = .notified := by
  simp [stepNotifier, swaps, stepNotify, Notifier.exchange, place]

/-- After the moves `before` the waiting thread evaluated its condition for the last time,
found that it does not hold, and has been parked since. -/
structure LastEvaluated (start : WakeThreads κ) (moves before : List (Move κ)) : Prop where
  evaluating : (start.follow before).waiting = .evaluateAgain
  fails : (start.follow before).holds = false
  parked : ∃ after, moves = before ++ .stepWaiter :: after ∧
    ∀ middle rest, after = middle ++ rest →
      (start.follow (before ++ .stepWaiter :: middle)).waiting = .park

theorem exists_lastEvaluated (awake : threads.waiting ≠ .park)
    (parked : (threads.follow moves).waiting = .park) :
    ∃ before, threads.LastEvaluated moves before := by
  obtain ⟨before, next, after, rfl, changed, since⟩ :=
    exists_last_change (fun threads : WakeThreads κ => threads.waiting = .park) moves awake parked
  have change : (threads.follow (before ++ [next])).waiting = .park := since [] after rfl
  rw [follow_append] at change
  obtain ⟨rfl, evaluating, fails⟩ := evaluates_of_parks changed change
  exact ⟨before, evaluating, fails, after, rfl, since⟩

/-- What was notified after the last evaluation is still to be seen. -/
theorem LastEvaluated.notified {before early late : List (Move κ)}
    (last : threads.LastEvaluated (early ++ .stepNotifier index :: late) before)
    (swaps : (threads.follow early).notifying[index]? = some .exchange)
    (later : ¬early ++ [.stepNotifier index] <+: before) :
    (threads.follow (early ++ .stepNotifier index :: late)).notifier.signal = .notified := by
  obtain ⟨after, split, parked⟩ := last.parked
  obtain ⟨between, rfl, tail⟩ | ⟨between, rfl, tail⟩ := List.append_eq_append_iff.mp split
  · cases between with
    | nil => cases tail
    | cons next between =>
        obtain ⟨rfl, -⟩ := List.cons.inj tail
        exact absurd ⟨between, by simp⟩ later
  · cases between with
    | nil => cases tail
    | cons next between =>
        obtain ⟨rfl, rfl⟩ := List.cons.inj tail
        rw [follow_append_cons]
        refine notified_follow ?_ (notified_of_swap swaps)
        rintro middle rest rfl
        have still := parked (between ++ .stepNotifier index :: middle) rest (by simp)
        rwa [← List.cons_append, ← List.append_assoc, follow_append_cons] at still

/-- A thread that stays parked without a token has seen what was notified: its handle is in
the slot for the next notification, and its last evaluation of the condition came after the
signal was swapped for the last time.  It is enough that no thread is about to take the
handle out. -/
theorem no_wakeup_lost (token : Bool) (condition : κ) (notifiers : Nat) (moves : List (Move κ))
    (parked : ((atRest token condition notifiers).follow moves).waiting = .park)
    (clear : ((atRest token condition notifiers).follow moves).token = false)
    (outside : ∀ stage ∈ ((atRest token condition notifiers).follow moves).notifying,
      stage.isTaking = false) :
    ((atRest token condition notifiers).follow moves).notifier.signal = .waiting ∧
      ((atRest token condition notifiers).follow moves).notifier.parker.slot = some .waiter ∧
      ∃ before, (atRest token condition notifiers).LastEvaluated moves before ∧
        ∀ early late index, moves = early ++ .stepNotifier index :: late →
          ((atRest token condition notifiers).follow early).notifying[index]? = some .exchange →
          early ++ [.stepNotifier index] <+: before := by
  have attended := (attended_atRest token condition notifiers).follow moves
  obtain ⟨waiting, slot⟩ := attended.signal_and_slot_of_parked parked clear outside
  have awake : (atRest token condition notifiers).waiting ≠ .park := by simp [atRest]
  obtain ⟨before, last⟩ := exists_lastEvaluated awake parked
  refine ⟨waiting, slot, before, last, ?_⟩
  rintro early late index rfl swaps
  by_contra later
  rw [last.notified swaps later] at waiting
  cases waiting

/-- One thread notifies before the other begins to wait.  The wait consumes that notification
without parking, and parks when the condition still fails; a third thread is about to change
it. -/
theorem parks_after_stale_notification :
    let notified : List (Move Nat) :=
      [.startNotify 0 Nat.succ, .stepNotifier 0, .stepNotifier 0]
    let moves := notified ++ .startWait (Nat.ble 2) ::
      (List.replicate 12 .stepWaiter ++ [.startNotify 1 Nat.succ])
    ((atRest false 0 2).follow moves).waiting = .park ∧
      ((atRest false 0 2).follow moves).token = false ∧
      ((atRest false 0 2).follow moves).notifier.signal = .waiting ∧
      ((atRest false 0 2).follow moves).notifier.parker.slot = some .waiter ∧
      ∃ before, (atRest false 0 2).LastEvaluated moves before ∧ notified <+: before := by
  intro notified moves
  have parked : ((atRest false 0 2).follow moves).waiting = .park := by decide +kernel
  have clear : ((atRest false 0 2).follow moves).token = false := by decide +kernel
  have outside : ∀ stage ∈ ((atRest false 0 2).follow moves).notifying,
      stage.isTaking = false := by
    decide +kernel
  obtain ⟨signal, slot, before, last, swapped⟩ :=
    no_wakeup_lost false 0 2 moves parked clear outside
  refine ⟨parked, clear, signal, slot, before, last, ?_⟩
  exact swapped (notified.take 2) (moves.drop 3) 0 rfl rfl

end WakeThreads

end Handoff.Wake
