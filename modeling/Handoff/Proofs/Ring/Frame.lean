import Handoff.Proofs.Ring.Queue

namespace Handoff.Ring

/-! What calls on a queue leave alone.  Calls move elements in and out, and only
dropping an end makes it go away; whatever can be read of a queue without looking at
its elements stays as it is.
-/

namespace Queue

def alive (queue : Queue α) : Side → Bool
  | .sender => queue.senderAlive
  | .receiver => queue.receiverAlive

/-- Reading it takes no look at the elements. -/
def Fixed (reading : Queue α → β) : Prop :=
  ∀ queue departed items,
    reading { queue with departed := departed, items := items } = reading queue

/-- An action does not change the reading by dropping an end. -/
def Spares (reading : Queue α → β) : Action α → Prop
  | .dropSender => ∀ queue : Queue α, reading { queue with senderAlive := false } = reading queue
  | .dropReceiver =>
      ∀ queue : Queue α, reading { queue with receiverAlive := false } = reading queue
  | _ => True

variable {reading : Queue α → β} {queue : Queue α} {value : α} {items : List α}

theorem trySend_fixed (fixed : Fixed reading) (queue : Queue α) (value : α) :
    reading (queue.trySend value).state = reading queue := by
  obtain ⟨_, tried⟩ | ⟨_, _, tried⟩ | ⟨_, _, _, _, _, _, tried⟩ | ⟨_, _, _, tried⟩ :=
    queue.trySend_cases value
  · rw [tried]
  · rw [tried]
    exact fixed queue _ _
  · rw [tried]
    exact fixed queue _ _
  · rw [tried]

theorem tryReceive_fixed (fixed : Fixed reading) (queue : Queue α) :
    reading queue.tryReceive.state = reading queue := by
  cases items : queue.items with
  | nil => rw [tryReceive_of_nil items]
  | cons item rest =>
      rw [tryReceive_of_cons items]
      exact fixed queue _ _

theorem receiveInto_fixed (fixed : Fixed reading) (queue : Queue α) (register : α) :
    reading (queue.receiveInto register).state = reading queue := by
  rw [receiveInto_state]
  exact tryReceive_fixed fixed queue

theorem sendNext_fixed (fixed : Fixed reading) (queue : Queue α) (feed : List α) :
    reading (queue.sendNext feed).state = reading queue := by
  cases feed with
  | nil => rfl
  | cons value rest =>
      rw [sendNext]
      split
      · exact trySend_fixed fixed queue value
      · rfl

theorem drainFor_fixed (fixed : Fixed reading) (count : Nat) (queue : Queue α) (feed : List α) :
    reading (drainFor count queue feed).state = reading queue := by
  induction count generalizing queue feed with
  | zero => rfl
  | succ count ih =>
      cases items : queue.items with
      | nil => simp [drainFor, tryReceive_of_nil items]
      | cons item rest =>
          simp only [drainFor, tryReceive_of_cons items]
          rw [ih, sendNext_fixed fixed]
          exact fixed queue _ _

theorem afterDrop_fixed (fixed : Fixed reading) (queue : Queue α) :
    reading queue.afterDrop.state = reading queue := by
  rw [afterDrop, freeIfAbandoned]
  split
  · rfl
  · exact fixed queue _ _

theorem perform_fixed (fixed : Fixed reading) (queue : Queue α) {action : Action α}
    (spares : Spares reading action) :
    reading (queue.perform action).state = reading queue := by
  cases action with
  | trySend value =>
      rw [perform]
      split
      · exact trySend_fixed fixed queue value
      · rfl
  | tryReceive =>
      rw [perform]
      split
      · exact tryReceive_fixed fixed queue
      · rfl
  | receiveInto register =>
      rw [perform]
      split
      · exact receiveInto_fixed fixed queue register
      · rfl
  | drain limit feed =>
      rw [perform]
      split
      · exact drainFor_fixed fixed _ queue feed
      · rfl
  | dropSender =>
      rw [perform]
      split
      · exact (afterDrop_fixed fixed _).trans (spares queue)
      · rfl
  | dropReceiver =>
      rw [perform]
      split
      · exact (afterDrop_fixed fixed _).trans (spares queue)
      · rfl
  | describe => rfl
  | unknown => rfl

/-! With waiting, the peer acts as well, but never drops the end that waits. -/

variable {blocked : Side}

theorem performGroup_fixed (fixed : Fixed reading)
    (spares : ∀ action, permits blocked action = true → Spares reading action)
    (queue : Queue α) (group : List (Action α)) :
    reading (queue.performGroup blocked group).state = reading queue := by
  induction group generalizing queue with
  | nil => rfl
  | cons action rest ih =>
      rw [performGroup, Outcome.andThen_state, ih, performAsPeer]
      split
      · next permitted => exact perform_fixed fixed queue (spares action permitted)
      · rfl

theorem await_fixed (fixed : Fixed reading)
    (spares : ∀ action, permits blocked action = true → Spares reading action)
    (queue : Queue α) (group : List (Action α)) :
    reading (queue.await blocked group).state = reading queue :=
  performGroup_fixed fixed spares queue group

theorem send_fixed (fixed : Fixed reading)
    (spares : ∀ action, permits .sender action = true → Spares reading action)
    (queue : Queue α) (value : α) (script : List (List (Action α))) :
    reading (queue.send value script).state = reading queue := by
  induction script generalizing queue value with
  | nil =>
      cases tried : (queue.trySend value).result with
      | ok =>
          rw [send_of_accepted tried]
          exact trySend_fixed fixed queue value
      | error error =>
          cases error with
          | closed _ => rw [send_of_closed tried]
          | full _ =>
              rw [send_of_full_nil tried]
              exact await_fixed fixed spares queue _
  | cons group rest ih =>
      cases tried : (queue.trySend value).result with
      | ok =>
          rw [send_of_accepted tried]
          exact trySend_fixed fixed queue value
      | error error =>
          cases error with
          | closed _ => rw [send_of_closed tried]
          | full _ =>
              rw [send_of_full_cons tried, Outcome.andThen_state, ih]
              exact await_fixed fixed spares queue group

theorem receive_fixed (fixed : Fixed reading)
    (spares : ∀ action, permits .receiver action = true → Spares reading action)
    (queue : Queue α) (script : List (List (Action α))) :
    reading (queue.receive script).state = reading queue := by
  induction script generalizing queue with
  | nil =>
      cases items : queue.items with
      | cons item rest =>
          rw [receive_of_cons items]
          exact fixed queue _ _
      | nil =>
          cases sender : queue.senderAlive with
          | false => rw [receive_of_closed items sender]
          | true =>
              rw [receive_of_empty_nil items sender]
              exact await_fixed fixed spares queue _
  | cons group rest ih =>
      cases items : queue.items with
      | cons item rest =>
          rw [receive_of_cons items]
          exact fixed queue _ _
      | nil =>
          cases sender : queue.senderAlive with
          | false => rw [receive_of_closed items sender]
          | true =>
              rw [receive_of_empty_cons items sender, Outcome.andThen_state, ih]
              exact await_fixed fixed spares queue group

theorem call_fixed (fixed : Fixed reading) (spares : ∀ action, Spares reading action)
    (queue : Queue α) (call : Call α) : reading (queue.call call).state = reading queue := by
  cases call with
  | act action => exact perform_fixed fixed queue (spares action)
  | send value script =>
      rw [Queue.call]
      split
      · exact send_fixed fixed (fun action _ => spares action) queue value script
      · rfl
  | receive script =>
      rw [Queue.call]
      split
      · exact receive_fixed fixed (fun action _ => spares action) queue script
      · rfl

theorem after_fixed (fixed : Fixed reading) (spares : ∀ action, Spares reading action)
    (queue : Queue α) (calls : List (Call α)) : reading (queue.after calls) = reading queue := by
  induction calls generalizing queue with
  | nil => rfl
  | cons call rest ih => exact (ih _).trans (call_fixed fixed spares queue call)

/-! What is fixed. -/

theorem after_bound (queue : Queue α) (calls : List (Call α)) :
    (queue.after calls).bound = queue.bound :=
  after_fixed (fun _ _ _ => rfl) (by intro action; cases action <;> simp [Spares]) queue calls

theorem after_overflow (queue : Queue α) (calls : List (Call α)) :
    (queue.after calls).overflow = queue.overflow :=
  after_fixed (fun _ _ _ => rfl) (by intro action; cases action <;> simp [Spares]) queue calls

theorem alive_fixed (side : Side) : Fixed fun queue : Queue α => queue.alive side := by
  intro queue departed items
  cases side <;> rfl

theorem alive_spared {side : Side} {action : Action α}
    (permitted : permits side action = true) :
    Spares (fun queue : Queue α => queue.alive side) action := by
  cases action with
  | dropSender =>
      cases side with
      | sender => cases permitted
      | receiver => exact fun _ => rfl
  | dropReceiver =>
      cases side with
      | sender => exact fun _ => rfl
      | receiver => cases permitted
  | _ => trivial

theorem present_of_alive {side : Side} (there : queue.alive side = true) :
    queue.present = true := by
  cases side <;> simp_all [alive, present]

theorem present_fixed : Fixed (present : Queue α → Bool) := fun _ _ _ => rfl

/-- A peer cannot drop the end that waits. -/
theorem await_alive (queue : Queue α) (blocked : Side) (group : List (Action α)) :
    (queue.await blocked group).state.alive blocked = queue.alive blocked :=
  await_fixed (alive_fixed blocked) (fun _ => alive_spared) queue group

theorem await_dropReceiver (queue : Queue α) :
    (queue.await .sender [.dropReceiver]).state.receiverAlive = false := by
  cases there : queue.receiverAlive with
  | false => simp [await, performGroup, performAsPeer, permits, perform, there]
  | true =>
      have left := afterDrop_fixed (alive_fixed .receiver)
        ({ queue with receiverAlive := false } : Queue α)
      simpa [await, performGroup, performAsPeer, permits, perform, there, dropReceiver,
        alive] using left

theorem await_dropSender (queue : Queue α) :
    (queue.await .receiver [.dropSender]).state.senderAlive = false := by
  cases there : queue.senderAlive with
  | false => simp [await, performGroup, performAsPeer, permits, perform, there]
  | true =>
      have left := afterDrop_fixed (alive_fixed .sender)
        ({ queue with senderAlive := false } : Queue α)
      simpa [await, performGroup, performAsPeer, permits, perform, there, dropSender,
        alive] using left

theorem await_dropSender_items (none : queue.items = []) :
    (queue.await .receiver [.dropSender]).state.items = [] := by
  cases there : queue.senderAlive with
  | false => simp [await, performGroup, performAsPeer, permits, perform, there, none]
  | true =>
      have left : ({ queue with senderAlive := false } : Queue α).afterDrop.state.items = [] := by
        rw [afterDrop, freeIfAbandoned]
        split
        · exact none
        · rfl
      simpa [await, performGroup, performAsPeer, permits, perform, there, dropSender]
        using left

end Queue

end Handoff.Ring
