import Handoff.Wake.Interleaving
import Mathlib.Logic.Function.Basic

namespace Handoff.Wake

/-! The lock of a parker, when one thread registers and any number of threads take.
At any time at most one of them may touch the slot, whatever bits the others leave on the
lock word meanwhile, and no bit is left behind when nobody is at the slot any more.
-/

/-- The lock word while a thread takes the handle out. -/
def ParkerLock.taken : ParkerLock := ⟨false, true⟩

theorem ParkerLock.idle_ne_taken : idle ≠ taken := by
  decide

theorem ParkerLock.held_ne_taken : held ≠ taken := by
  decide

namespace RegisterStage

def holdsLock : RegisterStage η → Bool
  | .put _ | .release _ | .retract _ | .reset .. => true
  | .acquire _ | .unpark _ | .done => false

/-- Between putting its handle in and giving the lock back, the thread knows where the
handle is. -/
def Keeps (slot : Option η) : RegisterStage η → Prop
  | .release _ | .retract _ => slot.isSome
  | .reset _ pending => pending.isSome
  | _ => True

end RegisterStage

namespace TakeStage

def holdsLock : TakeStage η → Bool
  | .vacate | .reset _ => true
  | .announce | .done _ => false

end TakeStage

namespace Parker

section Steps

variable {parker : Parker η} {handle : η} {replaced : Option η}

theorem stepRegister_acquire_of_idle (free : parker.lock = .idle) :
    parker.stepRegister (.acquire handle) = ({ parker with lock := .held }, .put handle) := by
  simp [stepRegister, acquire?, free]

/-- Only takers are in the way. -/
theorem stepRegister_acquire_of_busy (busy : parker.lock ≠ .idle)
    (single : parker.lock.registering = false) :
    parker.stepRegister (.acquire handle) = (parker, .acquire handle) := by
  simp [stepRegister, acquire?, busy, single]

theorem stepRegister_release_of_held (undisturbed : parker.lock = .held) :
    parker.stepRegister (.release replaced) = ({ parker with lock := .idle }, .done) := by
  simp [stepRegister, release?, undisturbed]

theorem stepRegister_release_of_disturbed (disturbed : parker.lock ≠ .held) :
    parker.stepRegister (.release replaced) = (parker, .retract replaced) := by
  simp [stepRegister, release?, disturbed]

theorem stepTake_announce_of_idle (free : parker.lock = .idle) :
    parker.stepTake .announce = ({ parker with lock := .taken }, .vacate) := by
  simp [stepTake, announce, free, ParkerLock.idle, ParkerLock.taken]

/-- A taker that is turned away leaves its bit behind. -/
theorem stepTake_announce_of_busy (busy : parker.lock ≠ .idle) :
    parker.stepTake .announce =
      ({ parker with lock := { parker.lock with waking := true } }, .done none) := by
  simp [stepTake, announce, busy]

end Steps

/-- A thread that does not register stands at `done`, and one that does not take at
`done none`. -/
structure Guarded (parker : Parker η) (registering : RegisterStage η)
    (takers : Nat → TakeStage η) : Prop where
  registering_eq : parker.lock.registering = registering.holdsLock
  keeps : registering.Keeps parker.slot
  taken : ∀ index, (takers index).holdsLock = true → parker.lock = .taken
  alone : ∀ first second, (takers first).holdsLock = true →
    (takers second).holdsLock = true → first = second
  owned : parker.lock = .taken → ∃ index, (takers index).holdsLock = true
  emptied : ∀ index handle, takers index = .reset handle → parker.slot = none

variable {parker : Parker η} {registering stage : RegisterStage η} {takers : Nat → TakeStage η}
  {index : Nat} {taking : TakeStage η}

theorem ne_taken {lock : ParkerLock} (held : lock.registering = true) : lock ≠ .taken := by
  rintro rfl
  cases held

theorem eq_taken {lock : ParkerLock} (busy : lock ≠ .idle) (free : lock.registering = false) :
    lock = .taken := by
  obtain ⟨registering, waking⟩ := lock
  obtain rfl : registering = false := free
  cases waking with
  | false => exact absurd rfl busy
  | true => rfl

theorem eq_held {lock : ParkerLock} (held : lock.registering = true) (clear : lock.waking = false) :
    lock = .held := by
  obtain ⟨registering, waking⟩ := lock
  obtain rfl : registering = true := held
  obtain rfl : waking = false := clear
  rfl

theorem guarded_of_free (free : ∀ index, (takers index).holdsLock = false)
    (untaken : parker.lock ≠ .taken) (locked : parker.lock.registering = registering.holdsLock)
    (keeps : registering.Keeps parker.slot) : parker.Guarded registering takers where
  registering_eq := locked
  keeps := keeps
  taken := by intro index holds; rw [free index] at holds; cases holds
  alone := by intro first _ holds; rw [free first] at holds; cases holds
  owned := fun taken => absurd taken untaken
  emptied := by
    intro index _ stage
    have none := free index
    rw [stage] at none
    cases none

/-- Without the lock a thread may begin and end to register. -/
theorem Guarded.restage (guarded : parker.Guarded registering takers)
    (before : registering.holdsLock = false) (after : stage.holdsLock = false) :
    parker.Guarded stage takers :=
  { guarded with
    registering_eq := by rw [guarded.registering_eq, before, after]
    keeps := by cases stage <;> trivial }

/-- A taker that neither gets the lock nor gives it back moves on. -/
theorem Guarded.retake (guarded : parker.Guarded registering takers)
    (same : taking.holdsLock = (takers index).holdsLock)
    (emptied : ∀ handle, taking = .reset handle → parker.slot = none) :
    parker.Guarded registering (Function.update takers index taking) := by
  have holds (other : Nat) :
      (Function.update takers index taking other).holdsLock = (takers other).holdsLock := by
    by_cases mine : other = index
    · rw [mine, Function.update_self, same]
    · rw [Function.update_of_ne mine]
  refine { guarded with taken := ?_, alone := ?_, owned := ?_, emptied := ?_ }
  · simpa only [holds] using guarded.taken
  · simpa only [holds] using guarded.alone
  · simpa only [holds] using guarded.owned
  · intro other handle stage
    by_cases mine : other = index
    · rw [mine, Function.update_self] at stage
      exact emptied handle stage
    · rw [Function.update_of_ne mine] at stage
      exact guarded.emptied other handle stage

/-- While the lock is held for registering, no taker is at the slot. -/
theorem Guarded.no_taker (guarded : parker.Guarded registering takers)
    (untaken : parker.lock ≠ .taken) (index : Nat) : (takers index).holdsLock = false := by
  cases taker : (takers index).holdsLock with
  | false => rfl
  | true => exact absurd (guarded.taken index taker) untaken

/-- As long as no taker is at the slot, the registering thread may do what it likes. -/
theorem Guarded.hold {after : Parker η} (guarded : parker.Guarded registering takers)
    (untaken : parker.lock ≠ .taken) (still : after.lock ≠ .taken)
    (locked : after.lock.registering = stage.holdsLock) (keeps : stage.Keeps after.slot) :
    after.Guarded stage takers :=
  guarded_of_free (guarded.no_taker untaken) still locked keeps

theorem Guarded.no_registering (guarded : parker.Guarded registering takers)
    (holds : (takers index).holdsLock = true) : registering.holdsLock = false := by
  rw [← guarded.registering_eq, guarded.taken index holds]
  rfl

theorem Guarded.stepRegister (guarded : parker.Guarded registering takers) :
    (parker.stepRegister registering).1.Guarded (parker.stepRegister registering).2 takers := by
  have locked := guarded.registering_eq
  have keeps := guarded.keeps
  cases registering with
  | acquire handle =>
      by_cases free : parker.lock = .idle
      · have untaken : parker.lock ≠ .taken := by
          rw [free]
          exact ParkerLock.idle_ne_taken
        rw [stepRegister_acquire_of_idle free]
        exact guarded.hold untaken ParkerLock.held_ne_taken rfl trivial
      · rw [stepRegister_acquire_of_busy free locked]
        exact guarded
  | put handle => exact guarded.hold (ne_taken locked) (ne_taken locked) locked rfl
  | release replaced =>
      by_cases undisturbed : parker.lock = .held
      · rw [stepRegister_release_of_held undisturbed]
        exact guarded.hold (ne_taken locked) ParkerLock.idle_ne_taken rfl trivial
      · rw [stepRegister_release_of_disturbed undisturbed]
        exact guarded.hold (ne_taken locked) (ne_taken locked) locked keeps
  | retract replaced => exact guarded.hold (ne_taken locked) (ne_taken locked) locked keeps
  | reset replaced pending =>
      obtain ⟨handle, rfl⟩ := Option.isSome_iff_exists.mp keeps
      exact guarded.hold (ne_taken locked) ParkerLock.idle_ne_taken rfl trivial
  | unpark handle => exact guarded.restage rfl rfl
  | done => exact guarded

/-- A thread that has registered left its handle in the slot, or has unparked itself. -/
theorem Guarded.slot_of_done (guarded : parker.Guarded registering takers)
    (begun : registering ≠ .done) (ended : (parker.stepRegister registering).2 = .done) :
    (parker.stepRegister registering).1.slot.isSome = true ∨
      ∃ handle, registering = .unpark handle := by
  have locked := guarded.registering_eq
  have keeps := guarded.keeps
  cases registering with
  | acquire handle =>
      by_cases free : parker.lock = .idle
      · rw [stepRegister_acquire_of_idle free] at ended
        cases ended
      · rw [stepRegister_acquire_of_busy free locked] at ended
        cases ended
  | put handle => cases ended
  | release replaced =>
      by_cases undisturbed : parker.lock = .held
      · left
        rw [stepRegister_release_of_held undisturbed]
        exact keeps
      · rw [stepRegister_release_of_disturbed undisturbed] at ended
        cases ended
  | retract replaced => cases ended
  | reset replaced pending =>
      obtain ⟨handle, rfl⟩ := Option.isSome_iff_exists.mp keeps
      cases ended
  | unpark handle => exact .inr ⟨handle, rfl⟩
  | done => exact absurd rfl begun

theorem Guarded.announce (guarded : parker.Guarded registering takers)
    (mine : takers index = .announce) :
    (parker.stepTake .announce).1.Guarded registering
      (Function.update takers index (parker.stepTake .announce).2) := by
  have waiting : (takers index).holdsLock = false := by rw [mine]; rfl
  by_cases free : parker.lock = .idle
  · have untaken : parker.lock ≠ .taken := by
      rw [free]
      exact ParkerLock.idle_ne_taken
    have mineAlone (other : Nat)
        (holds : (Function.update takers index .vacate other).holdsLock = true) :
        other = index := by
      by_contra different
      rw [Function.update_of_ne different, guarded.no_taker untaken other] at holds
      cases holds
    have locked := guarded.registering_eq
    rw [free] at locked
    rw [stepTake_announce_of_idle free]
    refine { guarded with
      registering_eq := locked
      taken := fun _ _ => rfl
      alone := ?_
      owned := fun _ => ⟨index, by rw [Function.update_self]; rfl⟩
      emptied := ?_ }
    · intro first second firstHolds secondHolds
      rw [mineAlone first firstHolds, mineAlone second secondHolds]
    · intro other handle stage
      have holds : (Function.update takers index .vacate other).holdsLock = true := by
        rw [stage]
        rfl
      obtain rfl := mineAlone other holds
      rw [Function.update_self] at stage
      cases stage
  · -- the bit that is left behind changes nothing for a taker that has the lock
    let marked : Parker η := { parker with lock := { parker.lock with waking := true } }
    have same (taken : marked.lock = .taken) : parker.lock = .taken := by
      apply eq_taken free
      have registering : marked.lock.registering = false := by rw [taken]; rfl
      exact registering
    have kept : marked.Guarded registering takers :=
      { guarded with
        taken := by
          intro other holds
          simp only [marked, guarded.taken other holds, ParkerLock.taken]
        owned := fun taken => guarded.owned (same taken) }
    rw [stepTake_announce_of_busy free]
    exact kept.retake waiting.symm (by simp)

theorem Guarded.stepTake (guarded : parker.Guarded registering takers)
    (mine : takers index = taking) :
    (parker.stepTake taking).1.Guarded registering
      (Function.update takers index (parker.stepTake taking).2) := by
  cases taking with
  | announce => exact guarded.announce mine
  | vacate =>
      have holds : (takers index).holdsLock = true := by rw [mine]; rfl
      have free := guarded.no_registering holds
      have vacated : ({ parker with slot := none } : Parker η).Guarded registering takers :=
        { guarded with
          keeps := by cases registering <;> trivial
          emptied := fun _ _ _ => rfl }
      exact vacated.retake holds.symm fun _ _ => rfl
  | reset handle =>
      have holds : (takers index).holdsLock = true := by rw [mine]; rfl
      have free := guarded.no_registering holds
      refine guarded_of_free ?_ ParkerLock.idle_ne_taken free.symm
        (by cases registering <;> trivial)
      -- nobody else had the lock, so now nobody has it
      intro other
      by_cases same : other = index
      · rw [same, Function.update_self]
        rfl
      · rw [Function.update_of_ne same]
        exact Bool.eq_false_iff.mpr fun taker => same (guarded.alone other index taker holds)
  | done handle =>
      have next : parker.stepTake (.done handle) = (parker, .done handle) := rfl
      rw [next, ← mine, Function.update_eq_self]
      exact guarded

end Parker

end Handoff.Wake
