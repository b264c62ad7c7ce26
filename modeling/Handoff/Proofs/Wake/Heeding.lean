import Handoff.Proofs.Wake.Passes
import Mathlib.Data.List.Induction

namespace Handoff.Wake

/-! A thread that waits does not sleep over a notification.  While the signal says that it
waits, its handle is in the slot, so a notification sets its token; and a notification that
came before it registered is found on the signal.
-/

/-- It was notified or unparked in the course of this evaluation. -/
def Evaluation.active (evaluation : Evaluation) : Bool :=
  evaluation.notifications != 0 || evaluation.unparks

namespace Waiter

/-- Nobody is at the slot, and a notification will find in it whom to wake. -/
structure Armed (waiter : Waiter) : Prop where
  unlocked : waiter.notifier.parker.lock = .idle
  registered : waiter.signal = .waiting → waiter.notifier.parker.slot = some .waiter

variable {waiter : Waiter} {evaluation : Evaluation}

theorem armed_new (token : Bool) : ({ token := token } : Waiter).Armed :=
  ⟨rfl, fun waiting => by cases waiting⟩

/-! Notifying. -/

theorem notifyOne_of_waiting (armed : waiter.Armed) (waiting : waiter.signal = .waiting) :
    waiter.notifyOne =
      { waiter with
        notifier := ⟨.notified, { waiter.notifier.parker with slot := none }⟩
        token := true } := by
  have before : waiter.notifier.signal = .waiting := waiting
  simp [notifyOne, Notifier.notifyOne, Notifier.exchange, before,
    Parker.take_of_idle armed.unlocked, armed.registered waiting, unpark]

theorem notifyOne_of_other (other : waiter.signal ≠ .waiting) :
    waiter.notifyOne = { waiter with notifier.signal := .notified } := by
  have before : ¬waiter.notifier.signal = .waiting := other
  simp [notifyOne, Notifier.notifyOne, Notifier.exchange, before, unpark]

theorem notifyOne_signal (waiter : Waiter) : waiter.notifyOne.signal = .notified := by
  by_cases waiting : waiter.notifier.signal = .waiting <;>
    simp [notifyOne, Notifier.notifyOne, Notifier.exchange, signal, unpark, waiting]

theorem notifyOne_token (set : waiter.token = true) : waiter.notifyOne.token = true := by
  simp [notifyOne, unpark, set]

theorem Armed.notifyOne (armed : waiter.Armed) : waiter.notifyOne.Armed := by
  refine ⟨?_, fun waiting => by rw [notifyOne_signal] at waiting; cases waiting⟩
  by_cases waiting : waiter.signal = .waiting
  · rw [notifyOne_of_waiting armed waiting]
    exact armed.unlocked
  · rw [notifyOne_of_other waiting]
    exact armed.unlocked

/-! Evaluating. -/

theorem Armed.repeat_notifyOne (armed : waiter.Armed) (count : Nat) :
    (Nat.repeat Waiter.notifyOne count waiter).Armed := by
  induction count with
  | zero => exact armed
  | succ count ih => exact ih.notifyOne

theorem repeat_notifyOne_token (set : waiter.token = true) (count : Nat) :
    (Nat.repeat Waiter.notifyOne count waiter).token = true := by
  induction count with
  | zero => exact set
  | succ count ih => exact notifyOne_token ih

/-- A thread that waits is woken by the first of several notifications. -/
theorem Armed.repeat_notifyOne_wakes (armed : waiter.Armed) (waiting : waiter.signal = .waiting)
    (count : Nat) : (Nat.repeat Waiter.notifyOne (count + 1) waiter).token = true := by
  induction count with
  | zero =>
      rw [Nat.repeat, Nat.repeat, notifyOne_of_waiting armed waiting]
  | succ count ih => exact notifyOne_token ih

theorem Armed.evaluate (armed : waiter.Armed) (evaluation : Evaluation) :
    (waiter.evaluate evaluation).Armed := by
  have notified := armed.repeat_notifyOne evaluation.notifications
  exact ⟨notified.unlocked, notified.registered⟩

theorem evaluate_of_inactive (inactive : evaluation.active = false) (waiter : Waiter) :
    waiter.evaluate evaluation =
      { waiter with remote := waiter.remote + evaluation.remote.toNat } := by
  simp only [Evaluation.active, Bool.or_eq_false_iff, bne_eq_false_iff_eq] at inactive
  simp [evaluate, inactive, Nat.repeat]

theorem evaluate_signal_of_notifying (notifies : evaluation.notifications ≠ 0)
    (waiter : Waiter) : (waiter.evaluate evaluation).signal = .notified := by
  obtain ⟨count, same⟩ := Nat.exists_eq_succ_of_ne_zero notifies
  rw [evaluate, same]
  exact notifyOne_signal _

/-- What is clear at the end of an evaluation was clear all along. -/
theorem token_of_evaluate (clear : (waiter.evaluate evaluation).token = false) :
    waiter.token = false ∧ evaluation.unparks = false := by
  simp only [evaluate, Bool.or_eq_false_iff] at clear
  refine ⟨Bool.eq_false_iff.mpr fun set => ?_, clear.2⟩
  rw [repeat_notifyOne_token set] at clear
  cases clear.1

/-- A thread that waits and is not woken was not notified either. -/
theorem Armed.inactive_of_clear (armed : waiter.Armed) (waiting : waiter.signal = .waiting)
    (clear : (waiter.evaluate evaluation).token = false) : evaluation.active = false := by
  obtain ⟨-, unparked⟩ := token_of_evaluate clear
  cases notifications : evaluation.notifications with
  | zero => simp [Evaluation.active, notifications, unparked]
  | succ count =>
      have woken := armed.repeat_notifyOne_wakes waiting count
      rw [Waiter.evaluate, notifications, woken] at clear
      cases clear

/-! Registering and parking. -/

theorem prepare_of_notified (unlocked : waiter.notifier.parker.lock = .idle)
    (notified : waiter.signal = .notified) :
    waiter.prepare =
      (true, { waiter with
        notifier := ⟨.empty, { waiter.notifier.parker with slot := some .waiter }⟩ }) := by
  have before : waiter.notifier.signal = .notified := notified
  simp [prepare, Parker.register_of_idle unlocked, Notifier.exchange, before, unpark,
    Notifier.replace]

theorem prepare_of_unnotified (unlocked : waiter.notifier.parker.lock = .idle)
    (unnotified : waiter.signal ≠ .notified) :
    waiter.prepare =
      (false, { waiter with
        notifier := ⟨.waiting, { waiter.notifier.parker with slot := some .waiter }⟩ }) := by
  have before : ¬waiter.notifier.signal = .notified := unnotified
  simp [prepare, Parker.register_of_idle unlocked, Notifier.exchange, before, unpark]

theorem park?_of_token (set : waiter.token = true) :
    waiter.park? = some { waiter with token := false } := by
  rw [park?, if_pos set]

theorem acknowledge_signal (waiter : Waiter) : waiter.acknowledge.signal ≠ .notified := by
  simp only [acknowledge, Notifier.replace, signal]
  split
  · exact Signal.noConfusion
  · assumption

theorem Armed.acknowledge (armed : waiter.Armed) : waiter.acknowledge.Armed := by
  obtain ⟨unlocked, registered⟩ := armed
  simp only [Waiter.acknowledge, Notifier.replace]
  split
  · exact ⟨unlocked, fun waiting => by cases waiting⟩
  · exact ⟨unlocked, registered⟩

theorem Armed.park? {woken : Waiter} (armed : waiter.Armed) (parks : waiter.park? = some woken) :
    woken.Armed := by
  unfold Waiter.park? at parks
  split at parks
  · cases parks
    exact ⟨armed.unlocked, armed.registered⟩
  · split at parks
    · cases parks
    · next remote _ =>
        have notified : ({ waiter with remote := remote } : Waiter).notifyOne.Armed :=
          Armed.notifyOne ⟨armed.unlocked, armed.registered⟩
        dsimp only at parks
        split at parks
        · cases parks
          exact ⟨notified.unlocked, notified.registered⟩
        · cases parks

end Waiter

namespace Standing

variable {start standing : Standing} {past : List Evaluation} {first second : Evaluation}
  {waiter : Waiter}

/-- What the first evaluation of a pass leads to. -/
theorem next_first_cases (armed : waiter.Armed) (evaluation : Evaluation) :
    let evaluated := waiter.evaluate evaluation
    let stored := { evaluated.notifier.parker with slot := some .waiter }
    evaluation.holds = true ∧ (evaluates waiter).next evaluation = .returns evaluated ∨
      evaluation.holds = false ∧ evaluated.signal = .notified ∧
        (evaluates waiter).next evaluation =
          .evaluates { evaluated with notifier := ⟨.empty, stored⟩ } ∨
      evaluation.holds = false ∧ evaluated.signal ≠ .notified ∧
        (evaluates waiter).next evaluation =
          .evaluatesAgain evaluation { evaluated with notifier := ⟨.waiting, stored⟩ } := by
  have unlocked := (armed.evaluate evaluation).unlocked
  cases holds : evaluation.holds with
  | true => exact .inl ⟨rfl, next_of_holds rfl holds⟩
  | false =>
      have fails : ¬evaluation.holds = true := by simp [holds]
      by_cases notified : (waiter.evaluate evaluation).signal = .notified
      · exact .inr (.inl ⟨rfl, notified,
          next_of_notified fails (Waiter.prepare_of_notified unlocked notified)⟩)
      · exact .inr (.inr ⟨rfl, notified,
          next_of_unnotified fails (Waiter.prepare_of_unnotified unlocked notified)⟩)

/-- What the second evaluation of a pass leads to. -/
theorem next_second_cases (first : Evaluation) (waiter : Waiter) (evaluation : Evaluation) :
    let evaluated := waiter.evaluate evaluation
    evaluation.holds = true ∧ (evaluatesAgain first waiter).next evaluation = .returns evaluated ∨
      evaluation.holds = false ∧
        (evaluatesAgain first waiter).next evaluation = .parks first evaluation evaluated := by
  cases holds : evaluation.holds with
  | true => exact .inl ⟨rfl, next_of_holds rfl holds⟩
  | false => exact .inr ⟨rfl, next_of_failed_again (by simp [holds])⟩

/-- What is known of a thread that has registered in this pass.  Without a token, the first
evaluation was not active. -/
structure Registered (start : Standing) (past : List Evaluation) (first : Evaluation)
    (waiter : Waiter) : Prop where
  evaluated : ∃ earlier before, past = earlier ++ [first] ∧
    (start.follow earlier).resume = .evaluates before
  fails : first.holds = false
  waiting : waiter.signal = .waiting
  unnotified : waiter.token = false → first.active = false

/-- What is known of a thread that is about to park: its condition failed twice in this pass.
Without a token, neither evaluation was active, and the signal still says that the thread
waits. -/
structure Passed (start : Standing) (past : List Evaluation) (first second : Evaluation)
    (waiter : Waiter) : Prop where
  evaluated : ∃ earlier later before, past = earlier ++ first :: second :: later ∧
    (start.follow earlier).resume = .evaluates before
  fails : first.holds = false ∧ second.holds = false
  unnotified : waiter.token = false →
    first.active = false ∧ second.active = false ∧ waiter.signal = .waiting

/-- What is known of a wait that has evaluated what is past. -/
inductive Sound (start : Standing) (past : List Evaluation) : Standing → Prop where
  | evaluates {waiter : Waiter} (armed : waiter.Armed) : Sound start past (.evaluates waiter)
  | evaluatesAgain {first : Evaluation} {waiter : Waiter} (armed : waiter.Armed)
      (registered : Registered start past first waiter) :
      Sound start past (.evaluatesAgain first waiter)
  | parks {first second : Evaluation} {waiter : Waiter} (armed : waiter.Armed)
      (passed : Passed start past first second waiter) :
      Sound start past (.parks first second waiter)
  | returns {waiter : Waiter} (armed : waiter.Armed) : Sound start past (.returns waiter)

theorem Sound.armed (sound : Sound start past standing) : standing.waiter.Armed := by
  cases sound <;> assumption

theorem sound_next_first (armed : waiter.Armed)
    (before : (start.follow past).resume = .evaluates waiter) (evaluation : Evaluation) :
    Sound start (past ++ [evaluation]) ((evaluates waiter).next evaluation) := by
  have evaluated := armed.evaluate evaluation
  obtain ⟨-, next⟩ | ⟨-, -, next⟩ | ⟨fails, quiet, next⟩ := next_first_cases armed evaluation
  · rw [next]
    exact .returns evaluated
  · rw [next]
    exact .evaluates ⟨evaluated.unlocked, fun _ => rfl⟩
  · have unnotified : evaluation.notifications = 0 :=
      Decidable.byContradiction fun notifies =>
        quiet (Waiter.evaluate_signal_of_notifying notifies waiter)
    rw [next]
    refine .evaluatesAgain ⟨evaluated.unlocked, fun _ => rfl⟩
      ⟨⟨past, waiter, rfl, before⟩, fails, rfl, fun clear => ?_⟩
    obtain ⟨-, unparked⟩ := Waiter.token_of_evaluate clear
    simp [Evaluation.active, unnotified, unparked]

theorem sound_next_second (armed : waiter.Armed) (registered : Registered start past first waiter)
    (evaluation : Evaluation) :
    Sound start (past ++ [evaluation]) ((evaluatesAgain first waiter).next evaluation) := by
  have evaluated := armed.evaluate evaluation
  obtain ⟨-, next⟩ | ⟨again, next⟩ := next_second_cases first waiter evaluation
  · rw [next]
    exact .returns evaluated
  · obtain ⟨⟨earlier, before, split, begins⟩, fails, waiting, inactive⟩ := registered
    rw [next]
    refine .parks evaluated ⟨⟨earlier, [], before, by simp [split], begins⟩, ⟨fails, again⟩,
      fun clear => ?_⟩
    obtain ⟨untouched, -⟩ := Waiter.token_of_evaluate clear
    have quiet := armed.inactive_of_clear waiting clear
    refine ⟨inactive untouched, quiet, ?_⟩
    rw [Waiter.evaluate_of_inactive quiet]
    exact waiting

/-- A thread that is blocked evaluates nothing more. -/
theorem Passed.later (passed : Passed start past first second waiter) (evaluation : Evaluation) :
    Passed start (past ++ [evaluation]) first second waiter := by
  obtain ⟨earlier, later, before, rfl, begins⟩ := passed.evaluated
  exact ⟨⟨earlier, later ++ [evaluation], before, by simp, begins⟩, passed.fails,
    passed.unnotified⟩

theorem Sound.next (sound : Sound start past standing) (here : start.follow past = standing)
    (evaluation : Evaluation) : Sound start (past ++ [evaluation]) (standing.next evaluation) := by
  cases sound with
  | evaluates armed => exact sound_next_first armed (by rw [here]; rfl) evaluation
  | evaluatesAgain armed registered => exact sound_next_second armed registered evaluation
  | @parks first second waiter armed passed =>
      rw [← next_resume]
      cases parks : waiter.park? with
      | none =>
          rw [resume_of_blocked parks, next_of_ended (by rw [evaluating?, resume_of_blocked parks])]
          exact .parks armed (passed.later evaluation)
      | some woken =>
          rw [resume_of_woken parks]
          refine sound_next_first (armed.park? parks).acknowledge ?_ evaluation
          rw [here, resume_of_woken parks]
  | returns armed => exact .returns armed

theorem sound_follow (armed : waiter.Armed) (evaluations : List Evaluation) :
    Sound (.evaluates waiter) evaluations ((Standing.evaluates waiter).follow evaluations) := by
  induction evaluations using List.reverseRecOn with
  | nil => exact .evaluates armed
  | append_singleton past evaluation ih =>
      rw [follow_append]
      exact ih.next rfl evaluation

theorem Sound.resume_armed (sound : Sound start past standing) :
    standing.resume.waiter.Armed := by
  cases sound with
  | @parks first second waiter armed passed =>
      cases parks : waiter.park? with
      | none =>
          rw [resume_of_blocked parks]
          exact armed
      | some woken =>
          rw [resume_of_woken parks]
          exact (armed.park? parks).acknowledge
  | _ => assumption

/-- A notification from another thread is enough to have the condition evaluated again. -/
theorem resume_of_notified (armed : waiter.Armed) (waiting : waiter.signal = .waiting) :
    ∃ woken, (parks first second waiter.notifyOne).resume = .evaluates woken := by
  rw [Waiter.notifyOne_of_waiting armed waiting]
  exact ⟨_, resume_of_woken (Waiter.park?_of_token rfl)⟩

end Standing

namespace Waiter

variable {waiter : Waiter}

/-- What a thread can rely on that begins a wait, whatever the evaluations of its condition
do.  `registered` speaks of every point of the wait, and with no evaluations of its
beginning. -/
structure Heeds (waiter : Waiter) : Prop where
  loop : ∀ evaluations,
    waiter.waitUntil evaluations = (Standing.evaluates waiter).finish evaluations
  registered : ∀ evaluations,
    let stands := ((Standing.evaluates waiter).follow evaluations).waiter
    stands.signal = .waiting → stands.notifier.parker.slot = some .waiter
  parks : ∀ evaluations first second parked,
    (Standing.evaluates waiter).follow evaluations = .parks first second parked →
      Standing.Passed (.evaluates waiter) evaluations first second parked ∧
      (parked.token = false →
        ∃ woken, (Standing.parks first second parked.notifyOne).resume = .evaluates woken)
  returns : ∀ evaluations, (waiter.waitUntil evaluations).returned = true →
    (waiter.waitUntil evaluations).seen.length = evaluations.findIdx Evaluation.holds + 1
  blocks : ∀ evaluations, (waiter.waitUntil evaluations).returned = false →
    (waiter.waitUntil evaluations).seen.length ≤ evaluations.findIdx Evaluation.holds ∧
      ∃ first second, (Standing.evaluates waiter).follow evaluations =
          .parks first second (waiter.waitUntil evaluations).waiter ∧
        (waiter.waitUntil evaluations).waiter.park? = none

theorem Armed.heeds (armed : waiter.Armed) : waiter.Heeds where
  loop := Standing.waitUntil_eq_finish waiter
  registered evaluations := (Standing.sound_follow armed evaluations).armed.registered
  parks evaluations first second parked stands := by
    have sound := Standing.sound_follow armed evaluations
    rw [stands] at sound
    cases sound with
    | parks armed passed =>
        exact ⟨passed, fun clear =>
          Standing.resume_of_notified armed (passed.unnotified clear).2.2⟩
  returns evaluations returned := by
    rw [Standing.waitUntil_eq_finish] at returned ⊢
    exact Standing.finish_returned rfl evaluations returned
  blocks evaluations stuck := by
    rw [Standing.waitUntil_eq_finish] at stuck ⊢
    exact Standing.finish_unreturned rfl evaluations stuck

theorem Armed.waitUntil (armed : waiter.Armed) (evaluations : List Evaluation) :
    (waiter.waitUntil evaluations).waiter.Armed := by
  rw [Standing.waitUntil_eq_finish, Standing.finish_waiter]
  exact (Standing.sound_follow armed evaluations).resume_armed

end Waiter

/-! Any history of notifications and waits. -/

namespace Scenario

/-- The waiting thread after some steps. -/
def after (waiter : Waiter) (steps : List Step) : Waiter :=
  steps.foldl (fun waiter step => (follow waiter step).1) waiter

theorem armed_after {waiter : Waiter} (armed : waiter.Armed) (steps : List Step) :
    (after waiter steps).Armed := by
  induction steps generalizing waiter with
  | nil => exact armed
  | cons step rest ih =>
      refine ih (?_ : (follow waiter step).1.Armed)
      cases step with
      | notify => exact armed.notifyOne
      | describe => exact armed
      | wait evaluations => exact armed.waitUntil evaluations
      | unknown => exact armed

/-- Whatever was notified and waited for before, and whether the thread has a token or not,
its next wait blocks only if nothing happened in that pass that could have woken it, and
returns with the first evaluation that holds. -/
theorem blocks_only_unnotified (token : Bool) (steps : List Step) :
    (after { token := token } steps).Heeds :=
  (armed_after (Waiter.armed_new token) steps).heeds

-- what comes after the thread has registered sets its token; without that it blocks
example :
    (({} : Waiter).waitUntil
      [{ holds := false }, { notifications := 1, holds := false }, { holds := true }]).returned =
        true ∧
      (({} : Waiter).waitUntil [{ holds := false }, { holds := false }]).returned = false := by
  decide +kernel

end Scenario

end Handoff.Wake
