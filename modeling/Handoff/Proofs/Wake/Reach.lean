import Handoff.Proofs.Wake.Lock

namespace Handoff.Wake

/-! Who can still find the handle in a parker.  A taker may find the lock held or the slot
empty and go away with nothing, but then another one holds the handle or will find it.
-/

namespace TakeStage

/-- The thread has taken the handle out, and has yet to unpark it. -/
def isCarrying : TakeStage η → Bool
  | .announce | .vacate => false
  | .reset handle | .done handle => handle.isSome

/-- The thread will set the token, if there is still a handle to find. -/
def isWaking : TakeStage η → Bool
  | .announce | .vacate => true
  | .reset handle | .done handle => handle.isSome

theorem isWaking_of_carrying {stage : TakeStage η} (carries : stage.isCarrying = true) :
    stage.isWaking = true := by
  cases stage with
  | announce => cases carries
  | vacate => cases carries
  | reset handle => exact carries
  | done handle => exact carries

end TakeStage

section Takers

variable {takers : Nat → TakeStage η} {index : Nat} {taking : TakeStage η}

theorem exists_update (holds : TakeStage η → Bool) (found : ∃ other, holds (takers other) = true)
    (mine : holds (takers index) = true → holds taking = true) :
    ∃ other, holds (Function.update takers index taking other) = true := by
  obtain ⟨other, found⟩ := found
  by_cases same : other = index
  · subst same
    exact ⟨other, by rw [Function.update_self]; exact mine found⟩
  · exact ⟨other, by rw [Function.update_of_ne same]; exact found⟩

theorem exists_waking (carried : ∃ other, (takers other).isCarrying = true)
    (mine : (takers index).isCarrying = true → taking.isCarrying = true) :
    ∃ other, (Function.update takers index taking other).isWaking = true := by
  obtain ⟨other, carries⟩ := exists_update TakeStage.isCarrying carried mine
  exact ⟨other, TakeStage.isWaking_of_carrying carries⟩

namespace Parker

variable {parker : Parker η} {registering : RegisterStage η}

/-- Some thread can still find the handle, or has it. -/
def Findable (parker : Parker η) (takers : Nat → TakeStage η) : Prop :=
  parker.slot.isSome = true ∨ ∃ index, (takers index).isCarrying = true

theorem Findable.retake (findable : parker.Findable takers)
    (mine : (takers index).isCarrying = true → taking.isCarrying = true) :
    parker.Findable (Function.update takers index taking) :=
  findable.imp id fun carried => exists_update TakeStage.isCarrying carried mine

theorem Findable.carried (findable : parker.Findable takers) (empty : parker.slot = none) :
    ∃ index, (takers index).isCarrying = true := by
  obtain present | carried := findable
  · rw [empty] at present
    cases present
  · exact carried

theorem Findable.stepTake (findable : parker.Findable takers) (mine : takers index = taking) :
    (parker.stepTake taking).1.Findable
      (Function.update takers index (parker.stepTake taking).2) := by
  cases taking with
  | announce =>
      have free : (takers index).isCarrying = false := by rw [mine]; rfl
      have slot : (parker.stepTake .announce).1.slot = parker.slot := by
        simp only [Parker.stepTake]
        split <;> rfl
      rw [Findable, slot]
      exact findable.retake (by simp [free])
  | vacate =>
      have free : (takers index).isCarrying = false := by rw [mine]; rfl
      obtain present | carried := findable
      · exact .inr ⟨index, by rw [Function.update_self]; exact present⟩
      · exact .inr (exists_update TakeStage.isCarrying carried (by simp [free]))
  | reset handle => exact findable.retake (by rw [mine]; exact id)
  | done handle =>
      have next : parker.stepTake (.done handle) = (parker, .done handle) := rfl
      rw [next, ← mine, Function.update_eq_self]
      exact findable

/-- A taker that finds the lock or the slot taken leaves it to another one to set the
token. -/
theorem Guarded.stepTake_waking (guarded : parker.Guarded registering takers)
    (unlocked : registering.holdsLock = false) (findable : parker.Findable takers)
    (mine : takers index = taking) (waking : ∃ other, (takers other).isWaking = true) :
    ∃ other, (Function.update takers index (parker.stepTake taking).2 other).isWaking = true := by
  cases taking with
  | announce =>
      have free : (takers index).isCarrying = false := by rw [mine]; rfl
      by_cases idle : parker.lock = .idle
      · exact ⟨index, by rw [stepTake_announce_of_idle idle, Function.update_self]; rfl⟩
      · have taken := eq_taken idle (guarded.registering_eq.trans unlocked)
        obtain ⟨owner, holds⟩ := guarded.owned taken
        cases stage : takers owner with
        | announce => rw [stage] at holds; cases holds
        | done handle => rw [stage] at holds; cases holds
        | vacate =>
            have different : owner ≠ index := by
              rintro rfl
              rw [stage] at mine
              cases mine
            exact ⟨owner, by rw [Function.update_of_ne different, stage]; rfl⟩
        | reset handle =>
            -- the owner has emptied the slot, so somebody is carrying the handle
            have carried := findable.carried (guarded.emptied owner handle stage)
            exact exists_waking carried (by simp [free])
  | vacate =>
      have free : (takers index).isCarrying = false := by rw [mine]; rfl
      cases slot : parker.slot with
      | some handle =>
          refine ⟨index, ?_⟩
          rw [Function.update_self]
          exact Option.isSome_of_eq_some slot
      | none => exact exists_waking (findable.carried slot) (by simp [free])
  | reset handle => exact exists_update TakeStage.isWaking waking (by rw [mine]; exact id)
  | done handle =>
      have next : parker.stepTake (.done handle) = (parker, .done handle) := rfl
      rw [next, ← mine, Function.update_eq_self]
      exact waking

end Parker

end Takers

end Handoff.Wake
