import Handoff.Wake.Scenario

namespace Handoff.Wake

/-! A wait, looked at wherever its condition is evaluated or its thread is about to park.
Whenever the signal says that the thread waits, its handle is in the slot.  So the thread
gets to a park without a token only if nothing happened in that pass of the loop that could
have woken it, and the next notification will.
-/

/-- Where a wait stands. -/
inductive Standing where
  /-- A pass of the loop begins, and the condition is evaluated. -/
  | evaluates (waiter : Waiter)
  /-- The thread has registered, and evaluates the condition once more. -/
  | evaluatesAgain (first : Evaluation) (waiter : Waiter)
  /-- The condition failed twice in this pass, and the thread parks next. -/
  | parks (first second : Evaluation) (waiter : Waiter)
  | returns (waiter : Waiter)

namespace Standing

def waiter : Standing → Waiter
  | .evaluates waiter | .evaluatesAgain _ waiter | .parks _ _ waiter | .returns waiter => waiter

def hasReturned : Standing → Bool
  | .returns _ => true
  | .evaluates _ | .evaluatesAgain .. | .parks .. => false

/-- Parks, if that comes next.  A thread that blocks there stays where it is. -/
def resume : Standing → Standing
  | .parks first second waiter =>
      match waiter.park? with
      | some woken => .evaluates woken.acknowledge
      | none => .parks first second waiter
  | standing => standing

/-- The thread as it begins the next evaluation.  There is none when it blocks or has
returned. -/
def evaluating? (standing : Standing) : Option Waiter :=
  match standing.resume with
  | .evaluates waiter | .evaluatesAgain _ waiter => some waiter
  | .parks .. | .returns _ => none

/-- Goes on over one evaluation, if there is a next one. -/
def next (standing : Standing) (evaluation : Evaluation) : Standing :=
  match standing.resume with
  | .evaluates waiter =>
      let evaluated := waiter.evaluate evaluation
      if evaluation.holds then .returns evaluated
      else
        match evaluated.prepare with
        | (true, prepared) => .evaluates prepared
        | (false, prepared) => .evaluatesAgain evaluation prepared
  | .evaluatesAgain first waiter =>
      let evaluated := waiter.evaluate evaluation
      if evaluation.holds then .returns evaluated else .parks first evaluation evaluated
  | ended => ended

def follow (standing : Standing) (evaluations : List Evaluation) : Standing :=
  evaluations.foldl next standing

/-- How a wait has ended that evaluates its condition no more. -/
def ended (standing : Standing) : WaitResult :=
  ⟨standing.hasReturned, [], standing.waiter⟩

/-- How the wait will end, if the condition holds once its evaluations are not given any
more. -/
def finish (standing : Standing) : List Evaluation → WaitResult
  | [] =>
      match standing.evaluating? with
      | some waiter => ⟨true, [waiter.signal], waiter⟩
      | none => standing.ended
  | evaluation :: rest =>
      match standing.evaluating? with
      | some waiter => ((standing.next evaluation).finish rest).after [waiter.signal]
      | none => standing.ended

variable {standing : Standing} {evaluation first second : Evaluation} {waiter woken : Waiter}

theorem finish_of_ended (finished : standing.evaluating? = none) (evaluations : List Evaluation) :
    standing.finish evaluations = standing.ended := by
  cases evaluations <;> rw [finish, finished]

theorem finish_nil (evaluates : standing.evaluating? = some waiter) :
    standing.finish [] = ⟨true, [waiter.signal], waiter⟩ := by
  rw [finish, evaluates]

theorem finish_cons (evaluates : standing.evaluating? = some waiter) (evaluation : Evaluation)
    (rest : List Evaluation) :
    standing.finish (evaluation :: rest) =
      ((standing.next evaluation).finish rest).after [waiter.signal] := by
  rw [finish, evaluates]

theorem resume_of_blocked (blocked : waiter.park? = none) :
    (parks first second waiter).resume = parks first second waiter := by
  rw [resume, blocked]

theorem resume_of_woken (parks : waiter.park? = some woken) :
    (Standing.parks first second waiter).resume = .evaluates woken.acknowledge := by
  rw [resume, parks]

theorem resume_resume (standing : Standing) : standing.resume.resume = standing.resume := by
  cases standing with
  | parks first second waiter =>
      cases parks : waiter.park? with
      | none => rw [resume_of_blocked parks, resume_of_blocked parks]
      | some woken => rw [resume_of_woken parks]; rfl
  | _ => rfl

theorem next_resume (standing : Standing) (evaluation : Evaluation) :
    standing.resume.next evaluation = standing.next evaluation := by
  rw [next, resume_resume, next]

theorem next_of_ended (finished : standing.evaluating? = none) (evaluation : Evaluation) :
    standing.next evaluation = standing := by
  cases standing with
  | returns waiter => rfl
  | parks first second waiter =>
      cases parks : waiter.park? with
      | none => rw [next, resume_of_blocked parks]
      | some woken => rw [evaluating?, resume_of_woken parks] at finished; cases finished
  | evaluates waiter => cases finished
  | evaluatesAgain first waiter => cases finished

theorem follow_of_ended (finished : standing.evaluating? = none) (evaluations : List Evaluation) :
    standing.follow evaluations = standing := by
  induction evaluations with
  | nil => rfl
  | cons evaluation rest ih => rwa [follow, List.foldl_cons, next_of_ended finished]

theorem follow_append (standing : Standing) (early late : List Evaluation) :
    standing.follow (early ++ late) = (standing.follow early).follow late :=
  List.foldl_append

theorem blocked_of_ended (finished : standing.evaluating? = none)
    (unreturned : standing.hasReturned = false) :
    ∃ first second, standing = .parks first second standing.waiter ∧
      standing.waiter.park? = none := by
  cases standing with
  | returns waiter => cases unreturned
  | parks first second waiter =>
      cases parks : waiter.park? with
      | none => exact ⟨first, second, rfl, parks⟩
      | some woken => rw [evaluating?, resume_of_woken parks] at finished; cases finished
  | evaluates waiter => cases finished
  | evaluatesAgain first waiter => cases finished

/-! The loop of a wait goes from one of these points to the next. -/

theorem resume_of_evaluating (evaluates : standing.evaluating? = some waiter) :
    standing.resume = .evaluates waiter ∨
      ∃ first, standing.resume = .evaluatesAgain first waiter := by
  rw [evaluating?] at evaluates
  split at evaluates
  · next resumed =>
      cases evaluates
      exact .inl resumed
  · next first _ resumed =>
      cases evaluates
      exact .inr ⟨first, resumed⟩
  · cases evaluates
  · cases evaluates

theorem next_of_holds (evaluates : standing.evaluating? = some waiter)
    (holds : evaluation.holds = true) :
    standing.next evaluation = .returns (waiter.evaluate evaluation) := by
  obtain resumed | ⟨first, resumed⟩ := resume_of_evaluating evaluates
  · simp only [next, resumed, holds, if_true]
  · simp only [next, resumed, holds, if_true]

/-- After a first evaluation that failed, a notification begins the loop anew. -/
theorem next_of_notified (fails : ¬evaluation.holds = true)
    (notified : (waiter.evaluate evaluation).prepare = (true, woken)) :
    (evaluates waiter).next evaluation = .evaluates woken := by
  simp only [next, resume, if_neg fails, notified]

theorem next_of_unnotified (fails : ¬evaluation.holds = true)
    (unnotified : (waiter.evaluate evaluation).prepare = (false, woken)) :
    (evaluates waiter).next evaluation = .evaluatesAgain evaluation woken := by
  simp only [next, resume, if_neg fails, unnotified]

theorem next_of_failed_again (fails : ¬second.holds = true) :
    (evaluatesAgain first waiter).next second = .parks first second (waiter.evaluate second) := by
  simp only [next, resume, if_neg fails]

theorem next_hasReturned (evaluates : standing.evaluating? = some waiter)
    (fails : ¬evaluation.holds = true) : (standing.next evaluation).hasReturned = false := by
  rw [← next_resume]
  obtain resumed | ⟨first, resumed⟩ := resume_of_evaluating evaluates
  · rw [resumed]
    match prepared : (waiter.evaluate evaluation).prepare with
    | (true, woken) => rw [next_of_notified fails prepared]; rfl
    | (false, woken) => rw [next_of_unnotified fails prepared]; rfl
  · rw [resumed, next_of_failed_again fails]
    rfl

theorem finish_of_blocked (blocked : waiter.park? = none) (evaluations : List Evaluation) :
    (parks first second waiter).finish evaluations = ⟨false, [], waiter⟩ := by
  rw [finish_of_ended (by rw [evaluating?, resume_of_blocked blocked])]
  rfl

theorem finish_of_woken (parks : waiter.park? = some woken) (evaluations : List Evaluation) :
    (Standing.parks first second waiter).finish evaluations =
      (Standing.evaluates woken.acknowledge).finish evaluations := by
  have evaluates : (Standing.parks first second waiter).evaluating? = some woken.acknowledge := by
    rw [evaluating?, resume_of_woken parks]
  cases evaluations with
  | nil => rw [finish_nil evaluates, finish_nil rfl]
  | cons evaluation rest =>
      have same : (Standing.parks first second waiter).next evaluation =
          (Standing.evaluates woken.acknowledge).next evaluation := by
        rw [next, resume_of_woken parks]
        rfl
      rw [finish_cons evaluates, finish_cons rfl, same]

/-- A wait is what becomes of it when it goes on over its evaluations one by one. -/
theorem waitUntil_eq_finish (waiter : Waiter) (evaluations : List Evaluation) :
    waiter.waitUntil evaluations = (Standing.evaluates waiter).finish evaluations := by
  fun_induction Waiter.waitUntil waiter evaluations with
  | case1 waiter => rfl
  | case2 waiter first rest evaluated holds =>
      rw [finish_cons rfl, next_of_holds rfl holds, finish_of_ended rfl]
      rfl
  | case3 waiter first evaluated fails prepared rest notified ih =>
      rw [finish_cons rfl, next_of_notified fails notified, ih]
  | case4 waiter first evaluated fails prepared unnotified =>
      rw [finish_cons rfl, next_of_unnotified fails unnotified]
      rfl
  | case5 waiter first evaluated fails prepared second rest unnotified seen again holds =>
      rw [finish_cons rfl, next_of_unnotified fails unnotified, finish_cons rfl,
        next_of_holds rfl holds, finish_of_ended rfl]
      rfl
  | case6 waiter first evaluated fails prepared second rest unnotified seen again failed blocked =>
      rw [finish_cons rfl, next_of_unnotified fails unnotified, finish_cons rfl,
        next_of_failed_again failed, finish_of_blocked blocked]
      rfl
  | case7 waiter first evaluated fails prepared second rest unnotified seen again failed woken
      parks ih =>
      rw [finish_cons rfl, next_of_unnotified fails unnotified, finish_cons rfl,
        next_of_failed_again failed, finish_of_woken parks, ih]
      rfl

theorem finish_waiter (standing : Standing) (evaluations : List Evaluation) :
    (standing.finish evaluations).waiter = (standing.follow evaluations).resume.waiter := by
  have stays {standing : Standing} (finished : standing.evaluating? = none) :
      standing.waiter = standing.resume.waiter := by
    cases standing with
    | parks first second waiter =>
        cases parks : waiter.park? with
        | none => rw [resume_of_blocked parks]
        | some woken => rw [evaluating?, resume_of_woken parks] at finished; cases finished
    | _ => rfl
  induction evaluations generalizing standing with
  | nil =>
      cases evaluates : standing.evaluating? with
      | none =>
          rw [finish_of_ended evaluates]
          exact stays evaluates
      | some waiter =>
          rw [finish_nil evaluates]
          obtain resumed | ⟨first, resumed⟩ := resume_of_evaluating evaluates
          · rw [follow, List.foldl_nil, resumed]
            rfl
          · rw [follow, List.foldl_nil, resumed]
            rfl
  | cons evaluation rest ih =>
      cases evaluates : standing.evaluating? with
      | none =>
          rw [finish_of_ended evaluates, follow_of_ended evaluates]
          exact stays evaluates
      | some waiter =>
          rw [finish_cons evaluates]
          exact ih (standing.next evaluation)

/-! A wait ends with the first evaluation that holds, or in a park. -/

theorem finish_returned (unreturned : standing.hasReturned = false)
    (evaluations : List Evaluation) (returned : (standing.finish evaluations).returned = true) :
    (standing.finish evaluations).seen.length =
      evaluations.findIdx Evaluation.holds + 1 := by
  induction evaluations generalizing standing with
  | nil =>
      cases evaluates : standing.evaluating? with
      | none =>
          rw [finish_of_ended evaluates, ended, unreturned] at returned
          cases returned
      | some waiter =>
          rw [finish_nil evaluates]
          rfl
  | cons evaluation rest ih =>
      cases evaluates : standing.evaluating? with
      | none =>
          rw [finish_of_ended evaluates, ended, unreturned] at returned
          cases returned
      | some waiter =>
          rw [finish_cons evaluates] at returned ⊢
          by_cases holds : evaluation.holds = true
          · rw [next_of_holds evaluates holds, finish_of_ended rfl, List.findIdx_cons, holds]
            rfl
          · have later := ih (next_hasReturned evaluates holds) returned
            simp [WaitResult.after, later, List.findIdx_cons, holds, Nat.add_comm]

/-- A wait that does not return has blocked before its condition held. -/
theorem finish_unreturned (unreturned : standing.hasReturned = false)
    (evaluations : List Evaluation) (stuck : (standing.finish evaluations).returned = false) :
    (standing.finish evaluations).seen.length ≤ evaluations.findIdx Evaluation.holds ∧
      ∃ first second, standing.follow evaluations =
          .parks first second (standing.finish evaluations).waiter ∧
        (standing.finish evaluations).waiter.park? = none := by
  induction evaluations generalizing standing with
  | nil =>
      cases evaluates : standing.evaluating? with
      | none =>
          rw [finish_of_ended evaluates]
          exact ⟨Nat.zero_le _, blocked_of_ended evaluates unreturned⟩
      | some waiter =>
          rw [finish_nil evaluates] at stuck
          cases stuck
  | cons evaluation rest ih =>
      cases evaluates : standing.evaluating? with
      | none =>
          rw [finish_of_ended evaluates, follow_of_ended evaluates]
          exact ⟨Nat.zero_le _, blocked_of_ended evaluates unreturned⟩
      | some waiter =>
          rw [finish_cons evaluates] at stuck ⊢
          by_cases holds : evaluation.holds = true
          · rw [next_of_holds evaluates holds, finish_of_ended rfl] at stuck
            cases stuck
          · obtain ⟨few, blocked⟩ := ih (next_hasReturned evaluates holds) stuck
            refine ⟨?_, blocked⟩
            simpa [WaitResult.after, List.findIdx_cons, holds, Nat.add_comm] using few

/-- Where a wait has ended, further evaluations do not matter. -/
theorem finish_of_prefix (evaluations : List Evaluation) (count : Nat)
    (finished : (standing.follow (evaluations.take count)).evaluating? = none) :
    (standing.finish evaluations).seen.length ≤ count ∧
      (standing.finish evaluations).returned =
        (standing.follow (evaluations.take count)).hasReturned := by
  induction evaluations generalizing standing count with
  | nil =>
      rw [List.take_nil, follow, List.foldl_nil] at finished
      rw [List.take_nil, finish_of_ended finished]
      exact ⟨Nat.zero_le _, rfl⟩
  | cons evaluation rest ih =>
      cases evaluating : standing.evaluating? with
      | none =>
          rw [finish_of_ended evaluating, follow_of_ended evaluating]
          exact ⟨Nat.zero_le _, rfl⟩
      | some waiter =>
          cases count with
          | zero =>
              rw [List.take_zero, follow, List.foldl_nil, evaluating] at finished
              cases finished
          | succ count =>
              obtain ⟨few, returned⟩ := ih count finished
              rw [finish_cons evaluating]
              refine ⟨?_, returned⟩
              rw [WaitResult.after, List.length_append, List.length_singleton]
              omega

theorem follow_hasReturned (unreturned : standing.hasReturned = false)
    (evaluations : List Evaluation)
    (fails : ∀ evaluation ∈ evaluations, evaluation.holds = false) :
    (standing.follow evaluations).hasReturned = false := by
  induction evaluations generalizing standing with
  | nil => exact unreturned
  | cons evaluation rest ih =>
      refine ih ?_ fun other member => fails other (List.mem_cons_of_mem _ member)
      cases evaluating : standing.evaluating? with
      | none => rwa [next_of_ended evaluating]
      | some waiter =>
          refine next_hasReturned evaluating ?_
          simp [fails evaluation List.mem_cons_self]

end Standing

end Handoff.Wake
