import Handoff.Proofs.Wake.Heeding

namespace Handoff.Wake

/-! A wait does not spin.  What keeps its loop going is a notification on the signal, which
is good for one evaluation, and a token, which is good for two.  Evaluations that are not
active use these up, and an active one leaves no more than four evaluations to come.
-/

namespace Waiter

variable {waiter woken : Waiter} {evaluation : Evaluation}

/-! Who is about to notify from elsewhere does not change by what the thread does itself. -/

theorem evaluate_remote (unaided : evaluation.remote = false) (waiter : Waiter) :
    (waiter.evaluate evaluation).remote = waiter.remote := by
  have notified (count : Nat) : (Nat.repeat notifyOne count waiter).remote = waiter.remote := by
    induction count with
    | zero => rfl
    | succ count ih => exact ih
  simp [evaluate, unaided, notified]

theorem park?_of_clear (clear : waiter.token = false) (alone : waiter.remote = 0) :
    waiter.park? = none := by
  simp [park?, clear, alone]

end Waiter

namespace Standing

variable {standing : Standing} {evaluation first second : Evaluation} {waiter : Waiter}

/-- How many more evaluations there will be if none of them is active. -/
def credit : Standing → Nat
  | .evaluates waiter =>
      2 + 2 * waiter.token.toNat + if waiter.signal = .notified then 1 else 0
  | .evaluatesAgain _ waiter => 1 + 2 * waiter.token.toNat
  | .parks _ _ waiter => 2 * waiter.token.toNat
  | .returns _ => 0

theorem credit_of_notified (notified : waiter.signal = .notified) :
    (evaluates waiter).credit = 3 + 2 * waiter.token.toNat := by
  rw [credit, if_pos notified]
  omega

theorem credit_of_unnotified (unnotified : waiter.signal ≠ .notified) :
    (evaluates waiter).credit = 2 + 2 * waiter.token.toNat := by
  rw [credit, if_neg unnotified, Nat.add_zero]

theorem credit_evaluates_le (waiter : Waiter) : (evaluates waiter).credit ≤ 5 := by
  have token := Bool.toNat_le waiter.token
  rw [credit]
  split <;> omega

theorem resume_cases (alone : standing.waiter.remote = 0) :
    standing.resume = standing ∨ ∃ first second waiter, standing = .parks first second waiter ∧
      waiter.token = true ∧
      standing.resume = .evaluates ({ waiter with token := false } : Waiter).acknowledge := by
  cases standing with
  | parks first second waiter =>
      cases token : waiter.token with
      | false => exact .inl (resume_of_blocked (Waiter.park?_of_clear token alone))
      | true => exact .inr ⟨first, second, waiter, rfl, token,
          resume_of_woken (Waiter.park?_of_token token)⟩
  | _ => exact .inl rfl

theorem resume_remote (alone : standing.waiter.remote = 0) :
    standing.resume.waiter.remote = 0 := by
  obtain same | ⟨first, second, waiter, rfl, -, woken⟩ := resume_cases alone
  · rwa [same]
  · rw [woken]
    exact alone

/-- A token that is consumed by parking was good for the two evaluations to come. -/
theorem resume_credit (alone : standing.waiter.remote = 0) :
    standing.resume.credit = standing.credit := by
  obtain same | ⟨first, second, waiter, rfl, token, woken⟩ := resume_cases alone
  · rw [same]
  · have consumed : ({ waiter with token := false } : Waiter).acknowledge.token = false := rfl
    rw [woken, credit_of_unnotified (Waiter.acknowledge_signal _), consumed, credit, token]
    rfl

/-- One evaluation of a thread that nobody else is about to notify.  An active one leaves no
more than four to come, and any other uses one up. -/
structure Spends (standing : Standing) (evaluation : Evaluation) : Prop where
  alone : (standing.next evaluation).waiter.remote = 0
  few : (standing.next evaluation).credit ≤ 4
  spent : evaluation.active = false →
    (standing.next evaluation).credit + 1 ≤ standing.credit

theorem spends_first (armed : waiter.Armed) (alone : waiter.remote = 0)
    (unaided : evaluation.remote = false) : (evaluates waiter).Spends evaluation := by
  have still := (Waiter.evaluate_remote unaided waiter).trans alone
  have token := Bool.toNat_le (waiter.evaluate evaluation).token
  have same (inactive : evaluation.active = false) : waiter.evaluate evaluation = waiter := by
    simp [Waiter.evaluate_of_inactive inactive, unaided]
  obtain ⟨-, next⟩ | ⟨-, notified, next⟩ | ⟨-, quiet, next⟩ := next_first_cases armed evaluation
  · refine ⟨by rw [next]; exact still, by rw [next]; exact Nat.zero_le _, fun _ => ?_⟩
    rw [next, credit, credit]
    omega
  · have consumed : ((evaluates waiter).next evaluation).credit =
        2 + 2 * (waiter.evaluate evaluation).token.toNat := by
      rw [next]
      exact credit_of_unnotified Signal.noConfusion
    refine ⟨by rw [next]; exact still, by omega, fun inactive => ?_⟩
    rw [same inactive] at notified consumed
    rw [consumed, credit_of_notified notified]
    omega
  · have registered : ((evaluates waiter).next evaluation).credit =
        1 + 2 * (waiter.evaluate evaluation).token.toNat := by
      rw [next]
      rfl
    refine ⟨by rw [next]; exact still, by omega, fun inactive => ?_⟩
    rw [same inactive] at quiet registered
    rw [registered, credit_of_unnotified quiet]
    omega

theorem spends_second (first : Evaluation) (alone : waiter.remote = 0)
    (unaided : evaluation.remote = false) :
    (evaluatesAgain first waiter).Spends evaluation := by
  have still := (Waiter.evaluate_remote unaided waiter).trans alone
  have token := Bool.toNat_le (waiter.evaluate evaluation).token
  obtain ⟨-, next⟩ | ⟨-, next⟩ := next_second_cases first waiter evaluation
  · refine ⟨by rw [next]; exact still, by rw [next]; exact Nat.zero_le _, fun _ => ?_⟩
    rw [next, credit, credit]
    omega
  · have passed : ((evaluatesAgain first waiter).next evaluation).credit =
        2 * (waiter.evaluate evaluation).token.toNat := by
      rw [next]
      rfl
    refine ⟨by rw [next]; exact still, by omega, fun inactive => ?_⟩
    have same : (waiter.evaluate evaluation).token = waiter.token := by
      rw [Waiter.evaluate_of_inactive inactive]
    rw [passed, same, credit]
    omega

theorem ended_of_credit (alone : standing.waiter.remote = 0) (spent : standing.credit = 0) :
    standing.evaluating? = none := by
  cases standing with
  | parks first second waiter =>
      have clear : waiter.token = false :=
        Bool.eq_false_iff.mpr fun set => by simp [credit, set] at spent
      rw [evaluating?, resume_of_blocked (Waiter.park?_of_clear clear alone)]
  | returns waiter => rfl
  | evaluates waiter => simp [credit] at spent
  | evaluatesAgain first waiter => simp [credit] at spent

theorem Sound.spends {start : Standing} {past : List Evaluation}
    (sound : Sound start past standing) (alone : standing.resume.waiter.remote = 0)
    (evaluates : standing.evaluating? = some waiter) (unaided : evaluation.remote = false) :
    standing.resume.Spends evaluation := by
  have armed := sound.resume_armed
  obtain first | ⟨first, again⟩ := resume_of_evaluating evaluates
  · rw [first] at armed alone ⊢
    exact spends_first armed alone unaided
  · rw [again] at alone ⊢
    exact spends_second first alone unaided

/-- The thread evaluates its condition at most so often that its credit and the active
evaluations are used up. -/
theorem exists_ended (armed : waiter.Armed) (past rest : List Evaluation)
    (alone : ((evaluates waiter).follow past).waiter.remote = 0)
    (unaided : ∀ evaluation ∈ rest, evaluation.remote = false)
    (enough : ((evaluates waiter).follow past).credit + 4 * rest.countP Evaluation.active ≤
      rest.length) :
    ∃ count, count ≤ ((evaluates waiter).follow past).credit +
        4 * rest.countP Evaluation.active ∧
      ((evaluates waiter).follow (past ++ rest.take count)).evaluating? = none := by
  induction rest generalizing past with
  | nil =>
      refine ⟨0, Nat.zero_le _, ?_⟩
      rw [List.take_nil, List.append_nil]
      exact ended_of_credit alone (by simpa using enough)
  | cons evaluation rest ih =>
      cases evaluating : ((evaluates waiter).follow past).evaluating? with
      | none => exact ⟨0, Nat.zero_le _, by simpa using evaluating⟩
      | some evaluated =>
          have spends : ((evaluates waiter).follow past).resume.Spends evaluation :=
            (sound_follow armed past).spends (resume_remote alone) evaluating
              (unaided evaluation List.mem_cons_self)
          have next : (evaluates waiter).follow (past ++ [evaluation]) =
              ((evaluates waiter).follow past).resume.next evaluation := by
            rw [next_resume]
            exact follow_append _ past [evaluation]
          have left : ((evaluates waiter).follow past).credit ≠ 0 := fun spent => by
            rw [ended_of_credit alone spent] at evaluating
            cases evaluating
          have lower : ((evaluates waiter).follow (past ++ [evaluation])).credit +
              4 * rest.countP Evaluation.active + 1 ≤
                ((evaluates waiter).follow past).credit +
                  4 * (evaluation :: rest).countP Evaluation.active := by
            have few := spends.few
            rw [next, List.countP_cons]
            cases active : evaluation.active with
            | true =>
                rw [if_pos rfl]
                omega
            | false =>
                have spent := spends.spent active
                rw [resume_credit alone] at spent
                rw [if_neg Bool.false_ne_true]
                omega
          obtain ⟨count, few, finished⟩ := ih (past ++ [evaluation])
            (by rw [next]; exact spends.alone)
            (fun other member => unaided other (List.mem_cons_of_mem _ member))
            (by rw [List.length_cons] at enough; omega)
          exact ⟨count + 1, by omega, by simpa using finished⟩

end Standing

/-! A condition is now any behaviour of its evaluations, of which a wait sees as many as it
comes to make. -/

/-- The first evaluations of a condition. -/
def firstOf (condition : Nat → Evaluation) (count : Nat) : List Evaluation :=
  (List.range count).map condition

theorem take_firstOf (condition : Nat → Evaluation) {count given : Nat} (few : count ≤ given) :
    (firstOf condition given).take count = firstOf condition count := by
  rw [firstOf, ← List.map_take, List.take_range, Nat.min_eq_left few, firstOf]

theorem firstOf_add (condition : Nat → Evaluation) (index more : Nat) :
    firstOf condition (index + more) =
      firstOf condition index ++ firstOf (fun later => condition (index + later)) more := by
  simp [firstOf, List.range_add]

theorem countP_firstOf {condition : Nat → Evaluation} {count : Nat}
    (inactive : ∀ index < count, (condition index).active = false) :
    (firstOf condition count).countP Evaluation.active = 0 := by
  refine List.countP_eq_zero.mpr fun evaluation member => ?_
  obtain ⟨index, few, rfl⟩ := List.mem_map.mp member
  simp [inactive index (List.mem_range.mp few)]

/-- From some evaluation on, the wait is over as soon as the credit and the active evaluations
are used up. -/
theorem Standing.exists_ended_firstOf {waiter : Waiter} {condition : Nat → Evaluation}
    (armed : waiter.Armed) (index more : Nat)
    (alone : ((evaluates waiter).follow (firstOf condition index)).waiter.remote = 0)
    (unaided : ∀ later < more, (condition (index + later)).remote = false)
    (enough : ((evaluates waiter).follow (firstOf condition index)).credit +
      4 * (firstOf (fun later => condition (index + later)) more).countP Evaluation.active ≤
        more) :
    ∃ early ≤ index + more,
      ((evaluates waiter).follow (firstOf condition early)).evaluating? = none := by
  have length : (firstOf (fun later => condition (index + later)) more).length = more := by
    simp [firstOf]
  obtain ⟨count, few, finished⟩ := exists_ended armed (firstOf condition index)
    (firstOf (fun later => condition (index + later)) more) alone (fun evaluation member => by
      obtain ⟨later, few, rfl⟩ := List.mem_map.mp member
      exact unaided later (List.mem_range.mp few)) (by rwa [length])
  have below : count ≤ more := Nat.le_trans few enough
  rw [take_firstOf _ below, ← firstOf_add] at finished
  exact ⟨index + count, Nat.add_le_add_left below index, finished⟩

namespace Waiter

/-- The wait is over after at most `count` evaluations, however many more could be made. -/
def EndsWithin (waiter : Waiter) (condition : Nat → Evaluation) (count : Nat) : Prop :=
  ∀ given ≥ count, (waiter.waitUntil (firstOf condition given)).seen.length ≤ count

/-- The thread is blocked after at most `count` evaluations. -/
def BlocksWithin (waiter : Waiter) (condition : Nat → Evaluation) (count : Nat) : Prop :=
  waiter.EndsWithin condition count ∧
    ∀ given ≥ count, (waiter.waitUntil (firstOf condition given)).returned = false

variable {waiter : Waiter} {condition : Nat → Evaluation} {count : Nat}

theorem endsWithin_of_ended {early : Nat} (few : early ≤ count)
    (finished : ((Standing.evaluates waiter).follow (firstOf condition early)).evaluating? = none) :
    waiter.EndsWithin condition count := by
  intro given enough
  rw [← take_firstOf condition (Nat.le_trans few enough)] at finished
  rw [Standing.waitUntil_eq_finish]
  exact Nat.le_trans (Standing.finish_of_prefix _ early finished).1 few

theorem blocksWithin_of_ended {early : Nat} (few : early ≤ count)
    (fails : ∀ index, (condition index).holds = false)
    (finished : ((Standing.evaluates waiter).follow (firstOf condition early)).evaluating? = none) :
    waiter.BlocksWithin condition count := by
  refine ⟨endsWithin_of_ended few finished, fun given enough => ?_⟩
  rw [← take_firstOf condition (Nat.le_trans few enough)] at finished
  rw [Standing.waitUntil_eq_finish, (Standing.finish_of_prefix _ early finished).2]
  refine Standing.follow_hasReturned rfl _ fun evaluation member => ?_
  obtain ⟨index, -, rfl⟩ := List.mem_map.mp (List.mem_of_mem_take member)
  exact fails index

/-- How soon a wait comes to rest, if no other thread notifies: at once, after an evaluation that
may have been the last active one, and in all. -/
structure Settles (waiter : Waiter) : Prop where
  unaided : ∀ condition : Nat → Evaluation, waiter.remote = 0 →
    (∀ index, (condition index).holds = false) →
    (∀ index < 5, (condition index).remote = false ∧ (condition index).active = false) →
    waiter.BlocksWithin condition 5
  afterwards : ∀ (condition : Nat → Evaluation) (index : Nat),
    ((Standing.evaluates waiter).follow (firstOf condition index)).resume.waiter.remote = 0 →
    (∀ index, (condition index).holds = false) →
    (∀ later, index ≤ later → later ≤ index + 4 → (condition later).remote = false) →
    (∀ later, index < later → later ≤ index + 4 → (condition later).active = false) →
    waiter.BlocksWithin condition (index + 1 + 4)
  bounded : ∀ (condition : Nat → Evaluation) (active : Nat), waiter.remote = 0 →
    (∀ index < 5 + 4 * active, (condition index).remote = false) →
    (firstOf condition (5 + 4 * active)).countP Evaluation.active ≤ active →
    waiter.EndsWithin condition (5 + 4 * active)

theorem Armed.settles (armed : waiter.Armed) : waiter.Settles where
  unaided condition alone fails quiet := by
    have inactive : (firstOf (fun later => condition (0 + later)) 5).countP Evaluation.active = 0 :=
      countP_firstOf fun index few => by rw [Nat.zero_add]; exact (quiet index few).2
    obtain ⟨early, few, finished⟩ := Standing.exists_ended_firstOf armed 0 5 alone
      (fun later few => by rw [Nat.zero_add]; exact (quiet later few).1)
      (by rw [inactive]; exact Standing.credit_evaluates_le waiter)
    exact blocksWithin_of_ended few fails finished
  afterwards condition index alone fails unaided inactive := by
    cases evaluating : ((Standing.evaluates waiter).follow (firstOf condition index)).evaluating?
      with
    | none => exact blocksWithin_of_ended (by omega) fails evaluating
    | some evaluated =>
        have spends := (Standing.sound_follow armed (firstOf condition index)).spends alone
          evaluating (unaided index (Nat.le_refl index) (by omega))
        have next : (Standing.evaluates waiter).follow (firstOf condition (index + 1)) =
            ((Standing.evaluates waiter).follow (firstOf condition index)).resume.next
              (condition index) := by
          rw [Standing.next_resume, firstOf_add, Standing.follow_append]
          rfl
        have quiet : (firstOf (fun later => condition (index + 1 + later)) 4).countP
            Evaluation.active = 0 :=
          countP_firstOf fun later few => inactive (index + 1 + later) (by omega) (by omega)
        obtain ⟨early, few, finished⟩ := Standing.exists_ended_firstOf armed (index + 1) 4
          (by rw [next]; exact spends.alone)
          (fun later few => unaided (index + 1 + later) (by omega) (by omega))
          (by rw [quiet, next]; exact spends.few)
        exact blocksWithin_of_ended few fails finished
  bounded condition active alone unaided few := by
    have credit := Standing.credit_evaluates_le waiter
    obtain ⟨early, few, finished⟩ :=
      Standing.exists_ended_firstOf armed 0 (5 + 4 * active) alone
      (fun later few => by rw [Nat.zero_add]; exact unaided later few)
      (by
        simp only [Nat.zero_add]
        exact Nat.add_le_add credit (Nat.mul_le_mul_left 4 few))
    exact endsWithin_of_ended (by omega) finished

end Waiter

namespace Scenario

/-- Whatever was notified and waited for before, and whatever is left of it, the next wait does
not go on by itself. -/
theorem waits_without_spinning (token : Bool) (steps : List Step) :
    (after { token := token } steps).Settles :=
  (armed_after (Waiter.armed_new token) steps).settles

/-- Five evaluations are made when an earlier wait returned upon the notification that woke it,
so that the signal and the token are both left. -/
theorem five_evaluations_of_leftovers :
    let steps : List Step := [.wait [{ holds := false }, { notifications := 1, holds := true }]]
    let left := after { token := true } steps
    let condition := fun _ : Nat => ({ holds := false } : Evaluation)
    left.BlocksWithin condition 5 ∧ (left.waitUntil (firstOf condition 5)).seen.length = 5 := by
  intro steps left condition
  have settles : left.Settles := waits_without_spinning true steps
  exact ⟨settles.unaided condition (by decide +kernel) (fun _ => rfl) (fun _ _ => ⟨rfl, rfl⟩),
    by decide +kernel⟩

end Scenario

end Handoff.Wake
