import Handoff.Proofs.Wake.Lock

namespace Handoff.Wake

/-! One thread that registers handles in a parker, again and again, and any number of
threads that take them out.  One step takes a thread over one access to the lock word or to
the slot, or over one unparking.  Any order of the threads' steps is a run.  In none of them
are two threads at the slot at once, and when none is there, the lock word is idle.
-/

/-- How a handle left the slot. -/
inductive Departure (η : Type u) where
  /-- For a handle that was registered later. -/
  | replaced (handle : η)
  | taken (index : Nat) (handle : η)
  /-- By the thread that had just put it in. -/
  | retracted (handle : η)
deriving DecidableEq

/-- Where a thread stands that takes handles out.  A call either leaves the handle to its
caller, or unparks it. -/
inductive TakerStage (η : Type u) where
  | idle
  | calling (unparks : Bool) (stage : TakeStage η)

def TakerStage.stage : TakerStage η → TakeStage η
  | .idle => .done none
  | .calling _ stage => stage

/-- The threads that share a parker. -/
inductive Party where
  | registering
  | taker (index : Nat)

namespace RegisterStage

/-- The next access is to the slot. -/
def touchesSlot : RegisterStage η → Bool
  | .put _ | .retract _ => true
  | _ => false

theorem holdsLock_of_touchesSlot {stage : RegisterStage η} (touching : stage.touchesSlot = true) :
    stage.holdsLock = true := by
  cases stage with
  | put handle => rfl
  | retract replaced => rfl
  | _ => cases touching

/-- What the next access does to the handle in the slot. -/
def removes (slot : Option η) : RegisterStage η → List (Departure η)
  | .put _ => slot.toList.map .replaced
  | .retract _ => slot.toList.map .retracted
  | _ => []

/-- The handle that is unparked next. -/
def unparks : RegisterStage η → Option η
  | .unpark handle => some handle
  | _ => none

end RegisterStage

namespace TakeStage

def touchesSlot : TakeStage η → Bool
  | .vacate => true
  | _ => false

theorem holdsLock_of_touchesSlot {stage : TakeStage η} (touching : stage.touchesSlot = true) :
    stage.holdsLock = true := by
  cases stage with
  | vacate => rfl
  | _ => cases touching

def removes (index : Nat) (slot : Option η) : TakeStage η → List (Departure η)
  | .vacate => slot.toList.map (.taken index)
  | _ => []

/-- What a call does after a step from `stage` to `next`: how it goes on, and the handle that
it is done with.  It ends when it has released the slot, or has unparked the handle. -/
def conclude (unparks : Bool) (stage next : TakeStage η) : TakerStage η × Option η :=
  match stage, next with
  | .done handle, _ => (.idle, handle)
  | _, .done none => (.idle, none)
  | _, .done (some handle) =>
      if unparks then (.calling true (.done (some handle)), none) else (.idle, some handle)
  | _, next => (.calling unparks next, none)

/-- A call goes on from where its step at the parker has led, unless it is over. -/
theorem conclude_stepTake (parker : Parker η) (unparks : Bool) (stage : TakeStage η) :
    (stage.conclude unparks (parker.stepTake stage).2).1.stage = (parker.stepTake stage).2 ∨
      (parker.stepTake stage).2.holdsLock = false ∧
        (stage.conclude unparks (parker.stepTake stage).2).1.stage = .done none := by
  cases stage with
  | announce =>
      left
      simp only [Parker.stepTake]
      split <;> rfl
  | vacate => exact .inl rfl
  | reset handle =>
      cases handle with
      | none => exact .inl rfl
      | some handle =>
          cases unparks with
          | true => exact .inl rfl
          | false => exact .inr ⟨rfl, rfl⟩
  | done handle => exact .inr ⟨rfl, rfl⟩

end TakeStage

/-- The parker, where each thread stands, and what has become of the handles so far, in the
order in which it happened. -/
structure ParkerThreads (η : Type u) where
  parker : Parker η := {}
  registering : RegisterStage η := .done
  taking : Nat → TakerStage η := fun _ => .idle
  /-- What calls to register were begun with. -/
  registered : List η := []
  departed : List (Departure η) := []
  /-- What the registering thread has unparked itself. -/
  unparked : List η := []
  /-- What takers have left to their callers, or have unparked. -/
  delivered : List (Nat × η) := []

namespace ParkerThreads

def atRest : ParkerThreads η := {}

def startRegister (threads : ParkerThreads η) (handle : η) : ParkerThreads η :=
  match threads.registering with
  | .done =>
      { threads with
        registering := .acquire handle
        registered := threads.registered ++ [handle] }
  | _ => threads

def stepRegister (threads : ParkerThreads η) : ParkerThreads η :=
  let stage := threads.registering
  let (parker, next) := threads.parker.stepRegister stage
  { threads with
    parker := parker
    registering := next
    departed := threads.departed ++ stage.removes threads.parker.slot
    unparked := threads.unparked ++ stage.unparks.toList }

def place (threads : ParkerThreads η) (index : Nat) (stage : TakerStage η) : ParkerThreads η :=
  { threads with taking := Function.update threads.taking index stage }

def startTake (threads : ParkerThreads η) (index : Nat) (unparks : Bool) : ParkerThreads η :=
  match threads.taking index with
  | .idle => threads.place index (.calling unparks .announce)
  | _ => threads

def stepTaker (threads : ParkerThreads η) (index : Nat) : ParkerThreads η :=
  match threads.taking index with
  | .idle => threads
  | .calling unparks stage =>
      let (parker, next) := threads.parker.stepTake stage
      let (after, handle) := stage.conclude unparks next
      let stepped : ParkerThreads η :=
        { threads with
          parker := parker
          departed := threads.departed ++ stage.removes index threads.parker.slot
          delivered := threads.delivered ++ handle.toList.map (index, ·) }
      stepped.place index after

end ParkerThreads

/-- A thread begins a call, or makes its next step. -/
inductive ParkerMove (η : Type u) where
  | startRegister (handle : η)
  | stepRegister
  | startTake (index : Nat) (unparks : Bool)
  | stepTaker (index : Nat)

namespace ParkerThreads

def move (threads : ParkerThreads η) : ParkerMove η → ParkerThreads η
  | .startRegister handle => threads.startRegister handle
  | .stepRegister => threads.stepRegister
  | .startTake index unparks => threads.startTake index unparks
  | .stepTaker index => threads.stepTaker index

def follow (threads : ParkerThreads η) (moves : List (ParkerMove η)) : ParkerThreads η :=
  moves.foldl move threads

def takers (threads : ParkerThreads η) (index : Nat) : TakeStage η :=
  (threads.taking index).stage

/-- The thread has acquired the slot, and has not released it yet. -/
def holds (threads : ParkerThreads η) : Party → Bool
  | .registering => threads.registering.holdsLock
  | .taker index => (threads.takers index).holdsLock

def touches (threads : ParkerThreads η) : Party → Bool
  | .registering => threads.registering.touchesSlot
  | .taker index => (threads.takers index).touchesSlot

/-- No call is in progress. -/
def Quiet (threads : ParkerThreads η) : Prop :=
  threads.registering = .done ∧ ∀ index, threads.taking index = .idle

/-- The lock of the parker is in order. -/
def Guarded (threads : ParkerThreads η) : Prop :=
  threads.parker.Guarded threads.registering threads.takers

variable {threads : ParkerThreads η}

theorem follow_append (threads : ParkerThreads η) (first second : List (ParkerMove η)) :
    threads.follow (first ++ second) = (threads.follow first).follow second :=
  List.foldl_append

theorem takers_place (threads : ParkerThreads η) (index : Nat) (stage : TakerStage η) :
    (threads.place index stage).takers = Function.update threads.takers index stage.stage := by
  funext other
  by_cases same : other = index
  · subst same
    simp only [takers, place, Function.update_self]
  · simp only [takers, place, Function.update_of_ne same]

theorem guarded_atRest : (atRest : ParkerThreads η).Guarded :=
  Parker.guarded_of_free (fun _ => rfl) ParkerLock.idle_ne_taken rfl trivial

theorem Guarded.startRegister (guarded : threads.Guarded) (handle : η) :
    (threads.startRegister handle).Guarded := by
  unfold ParkerThreads.startRegister
  split
  next standing => exact Parker.Guarded.restage guarded (by rw [standing]; rfl) rfl
  next => exact guarded

theorem Guarded.stepRegister (guarded : threads.Guarded) : threads.stepRegister.Guarded :=
  Parker.Guarded.stepRegister guarded

theorem Guarded.startTake (guarded : threads.Guarded) (index : Nat) (unparks : Bool) :
    (threads.startTake index unparks).Guarded := by
  unfold ParkerThreads.startTake
  split
  next standing =>
      have idle : (threads.takers index).holdsLock = false := by rw [takers, standing]; rfl
      rw [Guarded, takers_place]
      exact Parker.Guarded.retake guarded idle.symm (by simp [TakerStage.stage])
  next => exact guarded

theorem Guarded.stepTaker (guarded : threads.Guarded) (index : Nat) :
    (threads.stepTaker index).Guarded := by
  unfold ParkerThreads.stepTaker
  split
  next => exact guarded
  next unparks stage standing =>
      have mine : threads.takers index = stage := by rw [takers, standing]; rfl
      have stepped := Parker.Guarded.stepTake guarded mine
      rw [Guarded, takers_place]
      obtain goes | ⟨free, ends⟩ := stage.conclude_stepTake threads.parker unparks
      · rw [goes]
        exact stepped
      · rw [ends, ← Function.update_idem]
        exact stepped.retake (by rw [Function.update_self, free]; rfl) (by simp)

theorem Guarded.move (guarded : threads.Guarded) (next : ParkerMove η) :
    (threads.move next).Guarded := by
  cases next with
  | startRegister handle => exact guarded.startRegister handle
  | stepRegister => exact guarded.stepRegister
  | startTake index unparks => exact guarded.startTake index unparks
  | stepTaker index => exact guarded.stepTaker index

theorem Guarded.follow (guarded : threads.Guarded) (moves : List (ParkerMove η)) :
    (threads.follow moves).Guarded := by
  induction moves generalizing threads with
  | nil => exact guarded
  | cons next rest ih => exact ih (guarded.move next)

/-! What the lock is good for. -/

theorem Guarded.alone {one other : Party} (guarded : threads.Guarded)
    (oneHolds : threads.holds one = true) (otherHolds : threads.holds other = true) :
    one = other := by
  cases one with
  | registering =>
      cases other with
      | registering => rfl
      | taker index =>
          have free := Parker.Guarded.no_registering guarded otherHolds
          exact absurd oneHolds (Bool.eq_false_iff.mp free)
  | taker index =>
      cases other with
      | registering =>
          have free := Parker.Guarded.no_registering guarded oneHolds
          exact absurd otherHolds (Bool.eq_false_iff.mp free)
      | taker other =>
          exact congrArg Party.taker (Parker.Guarded.alone guarded index other oneHolds otherHolds)

theorem holds_of_touches {party : Party} (touching : threads.touches party = true) :
    threads.holds party = true := by
  cases party with
  | registering => exact RegisterStage.holdsLock_of_touchesSlot touching
  | taker index => exact TakeStage.holdsLock_of_touchesSlot touching

/-- No bit of the lock word is left behind, and none is missing. -/
theorem Guarded.idle_iff (guarded : threads.Guarded) :
    threads.parker.lock = .idle ↔ ∀ party, threads.holds party = false := by
  constructor
  · intro idle party
    cases party with
    | registering =>
        have locked := guarded.registering_eq
        rw [idle] at locked
        exact locked.symm
    | taker index =>
        apply Parker.Guarded.no_taker guarded
        rw [idle]
        exact ParkerLock.idle_ne_taken
  · intro free
    by_contra busy
    have unregistered := guarded.registering_eq.trans (free .registering)
    obtain ⟨index, holds⟩ := guarded.owned (Parker.eq_taken busy unregistered)
    exact absurd holds (Bool.eq_false_iff.mp (free (.taker index)))

theorem Quiet.free (quiet : threads.Quiet) (party : Party) : threads.holds party = false := by
  obtain ⟨done, idle⟩ := quiet
  cases party with
  | registering => rw [holds, done]; rfl
  | taker index => rw [holds, takers, idle]; rfl

theorem stepTaker_vacate {index : Nat} {unparks : Bool}
    (standing : threads.taking index = .calling unparks .vacate) :
    (threads.stepTaker index).taking index = .calling unparks (.reset threads.parker.slot) := by
  simp only [stepTaker, standing]
  exact Function.update_self ..

theorem stepTaker_reset {index : Nat} {unparks : Bool} {handle : Option η}
    (standing : threads.taking index = .calling unparks (.reset handle)) :
    (threads.stepTaker index).parker.lock = .idle := by
  simp only [stepTaker, standing]
  rfl

/-- A taker at the slot gives it up after two steps at most. -/
theorem clears_of_holds {index : Nat} (holding : threads.holds (.taker index) = true) :
    ∃ count ≤ 2,
      (threads.follow (List.replicate count (.stepTaker index))).parker.lock = .idle := by
  cases standing : threads.taking index with
  | idle =>
      rw [holds, takers, standing] at holding
      cases holding
  | calling unparks stage =>
      rw [holds, takers, standing] at holding
      cases stage with
      | announce => cases holding
      | vacate => exact ⟨2, Nat.le_refl _, stepTaker_reset (stepTaker_vacate standing)⟩
      | reset handle => exact ⟨1, by decide, stepTaker_reset standing⟩
      | done handle => cases holding

/-- What the threads can rely on at the parker. -/
structure Exclusive (threads : ParkerThreads η) : Prop where
  alone : ∀ one other, threads.holds one = true → threads.holds other = true → one = other
  within : ∀ party, threads.touches party = true → threads.holds party = true
  marked : threads.parker.lock.registering = threads.holds .registering
  /-- No call to register finds that another one is going on. -/
  single : ∀ handle, threads.registering = .acquire handle →
    (threads.parker.stepRegister (.acquire handle)).2 ≠ .done
  idle_iff : threads.parker.lock = .idle ↔ ∀ party, threads.holds party = false
  /-- A call to register waits for a taker only, which gives the slot up by itself. -/
  clears : ∀ index, threads.holds (.taker index) = true → ∃ count ≤ 2,
    (threads.follow (List.replicate count (.stepTaker index))).parker.lock = .idle
  /-- Between calls, the next handle finds its way in, and the one in the slot its way out. -/
  serves : threads.Quiet → threads.parker.lock = .idle ∧
    (∀ handle, threads.parker.register handle =
      (none, { threads.parker with slot := some handle })) ∧
    threads.parker.take = (threads.parker.slot, { threads.parker with slot := none })

theorem Guarded.exclusive (guarded : threads.Guarded) : threads.Exclusive where
  alone _ _ oneHolds otherHolds := guarded.alone oneHolds otherHolds
  within _ touching := holds_of_touches touching
  marked := guarded.registering_eq
  single := by
    intro handle standing
    have unregistered := guarded.registering_eq
    rw [standing] at unregistered
    by_cases free : threads.parker.lock = .idle
    · simp [Parker.stepRegister_acquire_of_idle free]
    · simp [Parker.stepRegister_acquire_of_busy free unregistered]
  idle_iff := guarded.idle_iff
  clears _ holding := clears_of_holds holding
  serves := by
    intro quiet
    have idle := guarded.idle_iff.mpr quiet.free
    exact ⟨idle, Parker.register_of_idle idle, Parker.take_of_idle idle⟩

end ParkerThreads

end Handoff.Wake
