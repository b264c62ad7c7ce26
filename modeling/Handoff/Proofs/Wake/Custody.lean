import Handoff.Proofs.Runs
import Handoff.Proofs.Wake.Sharing

namespace Handoff.Wake

/-! What becomes of the handles that are registered in a parker.  They leave the slot in the
order in which they were put in, each in one way, and what a thread has taken out stays in
its hands until it is done with it.  The registering thread takes a handle back only on behalf
of a taker that was turned away.
-/

namespace Departure

def handle : Departure η → η
  | .replaced handle | .taken _ handle | .retracted handle => handle

def retracted? : Departure η → Option η
  | .retracted handle => some handle
  | _ => none

def takenBy? (index : Nat) : Departure η → Option η
  | .taken taker handle => if taker = index then some handle else none
  | _ => none

theorem map_handle {leave : η → Departure η} (same : ∀ handle, (leave handle).handle = handle)
    (slot : Option η) : (slot.toList.map leave).map Departure.handle = slot.toList := by
  cases slot with
  | none => rfl
  | some handle => exact congrArg (fun left => [left]) (same handle)

theorem filterMap_replaced (slot : Option η) :
    (slot.toList.map replaced).filterMap retracted? = [] := by
  cases slot <;> rfl

theorem filterMap_retracted? (slot : Option η) :
    (slot.toList.map retracted).filterMap retracted? = slot.toList := by
  cases slot <;> rfl

theorem filterMap_takenBy? (index : Nat) (slot : Option η) :
    (slot.toList.map (taken index)).filterMap (takenBy? index) = slot.toList := by
  cases slot <;> simp [takenBy?]

end Departure

namespace RegisterStage

/-- The handle that has yet to be put in. -/
def bringing : RegisterStage η → Option η
  | .acquire handle | .put handle => some handle
  | _ => none

/-- The handle that was taken out again, and has yet to be unparked. -/
def pending : RegisterStage η → Option η
  | .reset _ pending => pending
  | .unpark handle => some handle
  | _ => none

/-- The thread has found that a taker came by. -/
def retracts : RegisterStage η → Bool
  | .retract _ | .reset .. | .unpark _ => true
  | _ => false

variable {parker : Parker η} {slot : Option η} {index : Nat}

theorem stepRegister_placed (stage : RegisterStage η)
    (single : ∀ handle, stage = .acquire handle → parker.lock.registering = false) :
    (stage.removes parker.slot).map Departure.handle ++
        ((parker.stepRegister stage).1.slot.toList ++
          (parker.stepRegister stage).2.bringing.toList) =
      parker.slot.toList ++ stage.bringing.toList := by
  cases stage with
  | acquire handle =>
      by_cases free : parker.lock = .idle
      · rw [Parker.stepRegister_acquire_of_idle free]
        rfl
      · rw [Parker.stepRegister_acquire_of_busy free (single handle rfl)]
        rfl
  | put handle =>
      rw [removes, Departure.map_handle fun _ => rfl]
      rfl
  | release replaced =>
      by_cases undisturbed : parker.lock = .held
      · rw [Parker.stepRegister_release_of_held undisturbed]
        rfl
      · rw [Parker.stepRegister_release_of_disturbed undisturbed]
        rfl
  | retract replaced =>
      rw [removes, Departure.map_handle fun _ => rfl]
      rfl
  | reset replaced pending => cases pending <;> rfl
  | unpark handle => rfl
  | done => rfl

theorem stepRegister_pending (stage : RegisterStage η) :
    stage.pending.toList ++ (stage.removes parker.slot).filterMap Departure.retracted? =
      stage.unparks.toList ++ (parker.stepRegister stage).2.pending.toList := by
  cases stage with
  | acquire handle =>
      simp only [Parker.stepRegister]
      repeat' split
      all_goals rfl
  | put handle => exact Departure.filterMap_replaced parker.slot
  | release replaced =>
      simp only [Parker.stepRegister]
      split <;> rfl
  | retract replaced => exact Departure.filterMap_retracted? parker.slot
  | reset replaced pending => cases pending <;> rfl
  | unpark handle => rfl
  | done => rfl

theorem pending_cases {handle : η} (stage : RegisterStage η)
    (pending : (parker.stepRegister stage).2.pending = some handle) :
    stage.pending = some handle ∨
      (∃ replaced, stage = .retract replaced) ∧ parker.slot = some handle := by
  cases stage with
  | acquire handle =>
      simp only [Parker.stepRegister] at pending
      repeat' split at pending
      all_goals cases pending
  | put handle => cases pending
  | release replaced =>
      simp only [Parker.stepRegister] at pending
      split at pending <;> cases pending
  | retract replaced => exact .inr ⟨⟨replaced, rfl⟩, pending⟩
  | reset replaced kept =>
      cases kept with
      | none => cases pending
      | some kept => exact .inl pending
  | unpark handle => cases pending
  | done => cases pending

theorem removes_takenBy (stage : RegisterStage η) :
    (stage.removes slot).filterMap (Departure.takenBy? index) = [] := by
  cases stage <;> cases slot <;> rfl

end RegisterStage

namespace TakeStage

/-- The handle that was taken out, and has yet to be delivered. -/
def carried : TakeStage η → Option η
  | .reset handle | .done handle => handle
  | _ => none

variable {parker : Parker η} {slot : Option η} {index : Nat}

theorem stepTake_placed (index : Nat) (stage : TakeStage η) :
    (stage.removes index parker.slot).map Departure.handle ++
      (parker.stepTake stage).1.slot.toList = parker.slot.toList := by
  cases stage with
  | announce =>
      simp only [Parker.stepTake]
      split <;> rfl
  | vacate =>
      rw [removes, Departure.map_handle fun _ => rfl]
      exact List.append_nil _
  | reset handle => rfl
  | done handle => rfl

theorem removes_retracted (stage : TakeStage η) :
    (stage.removes index slot).filterMap Departure.retracted? = [] := by
  cases stage <;> cases slot <;> rfl

theorem removes_takenBy_of_ne {other : Nat} (different : other ≠ index) (stage : TakeStage η) :
    (stage.removes index slot).filterMap (Departure.takenBy? other) = [] := by
  cases stage with
  | vacate => cases slot <;> simp [removes, Departure.takenBy?, Ne.symm different]
  | _ => rfl

theorem conclude_carried (unparks : Bool) (stage : TakeStage η) :
    stage.carried.toList ++
        (stage.removes index parker.slot).filterMap (Departure.takenBy? index) =
      (stage.conclude unparks (parker.stepTake stage).2).2.toList ++
        (stage.conclude unparks (parker.stepTake stage).2).1.stage.carried.toList := by
  cases stage with
  | announce =>
      simp only [Parker.stepTake]
      split <;> rfl
  | vacate => exact Departure.filterMap_takenBy? index parker.slot
  | reset handle => cases handle <;> cases unparks <;> rfl
  | done handle => cases handle <;> rfl

theorem conclude_delivered {takers : Nat → TakeStage η} {stage : TakeStage η}
    (mine : takers index = stage) (unparks : Bool) (other : Nat) :
    (takers other).carried.toList ++
        (stage.removes index parker.slot).filterMap (Departure.takenBy? other) =
      (if index = other then (stage.conclude unparks (parker.stepTake stage).2).2.toList
        else []) ++
        (Function.update takers index
          (stage.conclude unparks (parker.stepTake stage).2).1.stage other).carried.toList := by
  by_cases same : other = index
  · subst same
    rw [if_pos rfl, Function.update_self, mine, conclude_carried]
  · rw [if_neg (Ne.symm same), Function.update_of_ne same, removes_takenBy_of_ne same,
      List.append_nil, List.nil_append]

end TakeStage

namespace ParkerThreads

def deliveredBy (threads : ParkerThreads η) (index : Nat) : List η :=
  threads.delivered.filterMap fun (taker, handle) => if taker = index then some handle else none

theorem filterMap_delivered (index other : Nat) (handle : Option η) :
    (handle.toList.map (index, ·)).filterMap
        (fun (taker, handle) => if taker = other then some handle else none) =
      if index = other then handle.toList else [] := by
  cases handle with
  | none => split <;> rfl
  | some handle => split <;> simp [*]

/-- Where the handles are.  The first ones have left the slot, one may be in it, and the last
one may have yet to be put in. -/
structure Accounted (threads : ParkerThreads η) : Prop where
  placed : threads.registered =
    threads.departed.map Departure.handle ++
      (threads.parker.slot.toList ++ threads.registering.bringing.toList)
  retracted : threads.departed.filterMap Departure.retracted? =
    threads.unparked ++ threads.registering.pending.toList
  /-- The registering thread takes back only what it has just put in. -/
  own : ∀ handle, threads.registering.pending = some handle →
    threads.registered.getLast? = some handle
  taken : ∀ index, threads.departed.filterMap (Departure.takenBy? index) =
    threads.deliveredBy index ++ (threads.takers index).carried.toList

variable {threads : ParkerThreads η} {moves : List (ParkerMove η)}

theorem accounted_atRest : (atRest : ParkerThreads η).Accounted where
  placed := rfl
  retracted := rfl
  own := by intro handle pending; cases pending
  taken _ := rfl

theorem Accounted.startRegister (accounted : threads.Accounted) (handle : η) :
    (threads.startRegister handle).Accounted := by
  unfold ParkerThreads.startRegister
  split
  next standing =>
      have placed := accounted.placed
      have retracted := accounted.retracted
      rw [standing] at placed retracted
      refine { accounted with placed := ?_, retracted := retracted, own := ?_ }
      · simp only [placed, List.append_assoc]
        rfl
      · intro handle pending
        cases pending
  next => exact accounted

theorem Accounted.stepRegister (accounted : threads.Accounted) (guarded : threads.Guarded) :
    threads.stepRegister.Accounted where
  placed := by
    -- a call that found another one going on would lose its handle
    have single (handle : η) (standing : threads.registering = .acquire handle) :
        threads.parker.lock.registering = false := by
      rw [guarded.registering_eq, standing]
      rfl
    simp only [ParkerThreads.stepRegister, List.map_append, List.append_assoc]
    rw [RegisterStage.stepRegister_placed _ single]
    exact accounted.placed
  retracted := by
    simp only [ParkerThreads.stepRegister, List.filterMap_append, List.append_assoc]
    rw [accounted.retracted, List.append_assoc, RegisterStage.stepRegister_pending]
  own := by
    intro handle pending
    obtain before | ⟨⟨replaced, standing⟩, slot⟩ := RegisterStage.pending_cases _ pending
    · exact accounted.own handle before
    · have placed := accounted.placed
      rw [standing, slot] at placed
      simp only [ParkerThreads.stepRegister, placed]
      exact List.getLast?_concat
  taken := by
    intro index
    simp only [ParkerThreads.stepRegister, List.filterMap_append, RegisterStage.removes_takenBy,
      List.append_nil]
    exact accounted.taken index

theorem Accounted.startTake (accounted : threads.Accounted) (index : Nat) (unparks : Bool) :
    (threads.startTake index unparks).Accounted := by
  unfold ParkerThreads.startTake
  split
  next standing =>
      refine { accounted with taken := ?_ }
      intro other
      rw [takers_place]
      by_cases same : other = index
      · subst same
        have taken := accounted.taken other
        rw [takers, standing] at taken
        rw [Function.update_self]
        exact taken
      · rw [Function.update_of_ne same]
        exact accounted.taken other
  next => exact accounted

theorem Accounted.stepTaker (accounted : threads.Accounted) (index : Nat) :
    (threads.stepTaker index).Accounted := by
  unfold ParkerThreads.stepTaker
  split
  next => exact accounted
  next unparks stage standing =>
      refine { placed := ?_, retracted := ?_, own := accounted.own, taken := ?_ }
      · simp only [place, List.map_append]
        rw [accounted.placed, ← TakeStage.stepTake_placed index stage]
        simp only [List.append_assoc]
      · simp only [place, List.filterMap_append, TakeStage.removes_retracted, List.append_nil]
        exact accounted.retracted
      · intro other
        have mine : threads.takers index = stage := by rw [takers, standing]; rfl
        rw [takers_place]
        simp only [deliveredBy, place, List.filterMap_append, filterMap_delivered]
        rw [accounted.taken other, List.append_assoc, TakeStage.conclude_delivered mine unparks,
          List.append_assoc]
        rfl

theorem Accounted.move (accounted : threads.Accounted) (guarded : threads.Guarded)
    (next : ParkerMove η) : (threads.move next).Accounted := by
  cases next with
  | startRegister handle => exact accounted.startRegister handle
  | stepRegister => exact accounted.stepRegister guarded
  | startTake index unparks => exact accounted.startTake index unparks
  | stepTaker index => exact accounted.stepTaker index

theorem Accounted.follow (accounted : threads.Accounted) (guarded : threads.Guarded)
    (moves : List (ParkerMove η)) : (threads.follow moves).Accounted := by
  induction moves generalizing threads with
  | nil => exact accounted
  | cons next rest ih => exact ih (accounted.move guarded next) (guarded.move next)

end ParkerThreads

/-! Why the registering thread takes a handle back. -/

namespace Parker

variable {parker : Parker η} {registering stage : RegisterStage η} {taking : TakeStage η}

/-- A taker has come by while the registering thread held the slot. -/
def Disturbed (parker : Parker η) (registering : RegisterStage η) : Prop :=
  registering.holdsLock = true ∧ parker.lock.waking = true ∨ registering.retracts = true

theorem undisturbed (free : registering.holdsLock = false) (calm : registering.retracts = false) :
    ¬parker.Disturbed registering := by
  rintro (⟨holds, -⟩ | retracts)
  · rw [free] at holds
    cases holds
  · rw [calm] at retracts
    cases retracts

theorem Disturbed.ne_done (disturbed : parker.Disturbed registering) : registering ≠ .done := by
  rintro rfl
  exact undisturbed rfl rfl disturbed

theorem Disturbed.stepRegister (disturbed : (parker.stepRegister stage).1.Disturbed
    (parker.stepRegister stage).2) (locked : parker.lock.registering = stage.holdsLock) :
    parker.Disturbed stage := by
  cases stage with
  | acquire handle =>
      by_cases free : parker.lock = .idle
      · rw [stepRegister_acquire_of_idle free] at disturbed
        obtain ⟨-, waking⟩ | retracts := disturbed
        · cases waking
        · cases retracts
      · rw [stepRegister_acquire_of_busy free locked] at disturbed
        exact disturbed
  | put handle => exact .inl (disturbed.resolve_right Bool.false_ne_true)
  | release replaced =>
      by_cases undisturbed : parker.lock = .held
      · rw [stepRegister_release_of_held undisturbed] at disturbed
        exact absurd rfl disturbed.ne_done
      · -- nothing but the bit of a taker keeps the lock from being released
        refine .inl ⟨rfl, ?_⟩
        by_contra clear
        exact undisturbed (eq_held locked (Bool.eq_false_iff.mpr clear))
  | retract replaced | reset replaced pending | unpark handle => exact .inr rfl
  | done => exact absurd rfl disturbed.ne_done

theorem Disturbed.stepTake (disturbed : (parker.stepTake taking).1.Disturbed registering)
    (before : ¬parker.Disturbed registering) :
    taking = .announce ∧ registering.holdsLock = true := by
  obtain ⟨holds, waking⟩ | retracts := disturbed
  · cases taking with
    | announce => exact ⟨rfl, holds⟩
    | vacate => exact absurd (.inl ⟨holds, waking⟩) before
    | reset handle => cases waking
    | done handle => exact absurd (.inl ⟨holds, waking⟩) before
  · exact absurd (.inr retracts) before

end Parker

namespace ParkerThreads

variable {threads : ParkerThreads η} {moves : List (ParkerMove η)}

def Disturbed (threads : ParkerThreads η) : Prop :=
  threads.parker.Disturbed threads.registering

/-- Only a taker that comes by disturbs the registering thread. -/
theorem Guarded.arrives_of_disturbed {next : ParkerMove η} (guarded : threads.Guarded)
    (before : ¬threads.Disturbed) (after : (threads.move next).Disturbed) :
    ∃ index unparks, next = .stepTaker index ∧
      threads.taking index = .calling unparks .announce ∧
      threads.registering.holdsLock = true := by
  cases next with
  | startRegister handle =>
      simp only [ParkerThreads.move, ParkerThreads.startRegister] at after
      split at after
      · exact absurd after (Parker.undisturbed rfl rfl)
      · exact absurd after before
  | stepRegister => exact absurd (after.stepRegister guarded.registering_eq) before
  | startTake index unparks =>
      simp only [ParkerThreads.move, ParkerThreads.startTake] at after
      split at after <;> exact absurd after before
  | stepTaker index =>
      simp only [ParkerThreads.move, ParkerThreads.stepTaker] at after
      split at after
      next => exact absurd after before
      next unparks stage standing =>
          obtain ⟨rfl, holds⟩ := Parker.Disturbed.stepTake after before
          exact ⟨index, unparks, rfl, standing, holds⟩

/-- After the moves `before` a taker found that the registering thread held the slot, and
that thread has not come to the end of its call since. -/
def InterruptedAfter (start : ParkerThreads η) (moves before : List (ParkerMove η)) : Prop :=
  ∃ index unparks after, moves = before ++ .stepTaker index :: after ∧
    (start.follow before).taking index = .calling unparks .announce ∧
    (start.follow before).registering.holdsLock = true ∧
    ∀ middle rest, after = middle ++ rest →
      (start.follow (before ++ .stepTaker index :: middle)).registering ≠ .done

/-- Since the thread was disturbed for the last time it has been so, and so it still is in the
same call. -/
theorem Guarded.interrupted (guarded : threads.Guarded) (fresh : ¬threads.Disturbed)
    (disturbed : (threads.follow moves).Disturbed) :
    ∃ before, threads.InterruptedAfter moves before := by
  obtain ⟨before, next, after, rfl, undisturbed, since⟩ :=
    exists_last_change ParkerThreads.Disturbed moves fresh disturbed
  have change : (threads.follow (before ++ [next])).Disturbed := since [] after rfl
  rw [follow_append] at change
  obtain ⟨index, unparks, rfl, standing, holds⟩ :=
    (guarded.follow before).arrives_of_disturbed undisturbed change
  exact ⟨before, index, unparks, after, rfl, standing, holds,
    fun middle rest split => (since middle rest split).ne_done⟩

/-- However the accesses of one thread that registers and of any number of threads that take
follow upon one another, only one of them is at the slot at any time, and every handle that
was registered is in one place.  The registering thread takes a handle back, and unparks it
itself, only if a taker came by while it held the slot. -/
theorem no_handle_lost (moves : List (ParkerMove η)) :
    (atRest.follow moves).Exclusive ∧ (atRest.follow moves).Accounted ∧
      ((atRest.follow moves).registering.retracts = true →
        ∃ before, atRest.InterruptedAfter moves before) := by
  refine ⟨(guarded_atRest.follow moves).exclusive,
    accounted_atRest.follow guarded_atRest moves, fun retracts => ?_⟩
  exact guarded_atRest.interrupted (Parker.undisturbed rfl rfl) (.inr retracts)

/-- A taker comes by while the handle 5 is registered, the handle 6 is replaced by 7, and
another taker takes that one before 8 is registered. -/
theorem each_handle_in_its_place :
    let interrupted : List (ParkerMove Nat) :=
      [.startRegister 5, .stepRegister, .startTake 0 true, .stepTaker 0, .stepRegister,
        .stepRegister]
    let moves := interrupted ++ List.replicate 3 .stepRegister ++
      .startRegister 6 :: List.replicate 3 .stepRegister ++
      .startRegister 7 :: List.replicate 3 .stepRegister ++
      .startTake 1 false :: List.replicate 3 (.stepTaker 1) ++
      .startRegister 8 :: List.replicate 3 .stepRegister
    (atRest.follow interrupted).registering.retracts = true ∧
      (∃ before, atRest.InterruptedAfter interrupted before) ∧
      (atRest.follow moves).Exclusive ∧ (atRest.follow moves).Accounted ∧
      (atRest.follow moves).registered = [5, 6, 7, 8] ∧
      (atRest.follow moves).departed = [.retracted 5, .replaced 6, .taken 1 7] ∧
      (atRest.follow moves).unparked = [5] ∧ (atRest.follow moves).delivered = [(1, 7)] ∧
      (atRest.follow moves).parker = ⟨.idle, some 8⟩ := by
  intro interrupted moves
  have retracts : (atRest.follow interrupted).registering.retracts = true := by decide
  obtain ⟨-, -, interruption⟩ := no_handle_lost interrupted
  obtain ⟨exclusive, accounted, -⟩ := no_handle_lost moves
  exact ⟨retracts, interruption retracts, exclusive, accounted, by decide, by decide, by decide,
    by decide, by decide⟩

end ParkerThreads

end Handoff.Wake
