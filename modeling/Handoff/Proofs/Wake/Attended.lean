import Handoff.Proofs.Wake.Reach
import Handoff.Wake.Interleaving

namespace Handoff.Wake

/-! What the waiting thread and the notifying ones keep up between them.  From when the
waiting thread has registered until it parks, its handle can be found or the token is set.
Once it has announced that it waits, a notification is answered by a thread that will set
the token, though not always by the one that notified.
-/

namespace WaitStage

def registering : WaitStage → RegisterStage WaiterHandle
  | .register stage => stage
  | _ => .done

/-- The handle has been left, and the thread has not been woken since. -/
def registered : WaitStage → Bool
  | .exchange | .evaluateAgain | .park => true
  | _ => false

/-- The thread has announced that it waits, and found no notification then. -/
def announced : WaitStage → Bool
  | .evaluateAgain | .park => true
  | _ => false

theorem registered_of_announced {stage : WaitStage} (announced : stage.announced = true) :
    stage.registered = true := by
  cases stage <;> first | rfl | cases announced

theorem registering_of_registered {stage : WaitStage} (registered : stage.registered = true) :
    stage.registering = .done := by
  cases stage <;> first | rfl | cases registered

theorem free_of_elsewhere {stage : WaitStage}
    (elsewhere : ¬∃ registering, stage = .register registering) :
    stage.registering.holdsLock = false := by
  cases stage with
  | register registering => exact absurd ⟨registering, rfl⟩ elsewhere
  | _ => rfl

end WaitStage

namespace NotifyStage

def taking : NotifyStage κ → TakeStage WaiterHandle
  | .take stage => stage
  | _ => .done none

/-- Where a notifying thread goes on after a step at the parker. -/
def ofTaking : TakeStage WaiterHandle → NotifyStage κ
  | .done none => .idle
  | stage => .take stage

theorem taking_ofTaking (stage : TakeStage WaiterHandle) :
    (ofTaking stage : NotifyStage κ).taking = stage := by
  unfold ofTaking
  split <;> rfl

end NotifyStage

theorem Notifier.replace_parker (notifier : Notifier) (expected desired : Signal) :
    (notifier.replace expected desired).parker = notifier.parker := by
  unfold Notifier.replace
  split <;> rfl

namespace WakeThreads

def taker (threads : WakeThreads κ) (index : Nat) : TakeStage WaiterHandle :=
  ((threads.notifying[index]?).map NotifyStage.taking).getD (.done none)

/-- The token is set, or some thread will set it. -/
def Awaking (threads : WakeThreads κ) : Prop :=
  threads.token = true ∨ ∃ index, (threads.taker index).isWaking = true

structure Attended (threads : WakeThreads κ) : Prop where
  guarded : threads.notifier.parker.Guarded threads.waiting.registering threads.taker
  begun : threads.waiting ≠ .register .done
  findable : threads.waiting.registered = true →
    threads.token = true ∨ threads.notifier.parker.Findable threads.taker
  answered : threads.waiting.announced = true → threads.notifier.signal = .waiting ∨
    threads.notifier.signal = .notified ∧ threads.Awaking

variable {threads after : WakeThreads κ} {index : Nat} {stage next : NotifyStage κ}

theorem taker_of_stage (standing : threads.notifying[index]? = some stage) :
    threads.taker index = stage.taking := by
  simp [taker, standing]

theorem taker_place (standing : threads.notifying[index]? = some stage) :
    (threads.place index next).taker = Function.update threads.taker index next.taking := by
  obtain ⟨inside, _⟩ := List.getElem?_eq_some_iff.mp standing
  funext other
  by_cases same : other = index
  · rw [same, Function.update_self]
    simp [taker, place, inside]
  · rw [Function.update_of_ne same]
    simp [taker, place, Ne.symm same]

/-! The waiting thread. -/

/-- As long as it has not registered, the waiting thread relies on nobody. -/
theorem Attended.pass (attended : threads.Attended)
    (parker : after.notifier.parker = threads.notifier.parker)
    (notifying : after.notifying = threads.notifying)
    (left : threads.waiting.registering.holdsLock = false)
    (entered : after.waiting.registering.holdsLock = false)
    (begun : after.waiting ≠ .register .done)
    (unregistered : after.waiting.registered = false) : after.Attended where
  guarded := by
    have taker : after.taker = threads.taker := by
      funext index
      rw [WakeThreads.taker, notifying, WakeThreads.taker]
    rw [parker, taker]
    exact attended.guarded.restage left entered
  begun := begun
  findable := by
    intro registered
    rw [unregistered] at registered
    cases registered
  answered := by
    intro announced
    rw [WaitStage.registered_of_announced announced] at unregistered
    cases unregistered

theorem Attended.stepRegister {stage : RegisterStage WaiterHandle} (attended : threads.Attended)
    (standing : threads.waiting = .register stage) : threads.stepWaiter.Attended := by
  have begun : stage ≠ .done := by
    rintro rfl
    exact attended.begun standing
  have guarded := attended.guarded
  rw [standing, WaitStage.registering] at guarded
  have kept := guarded.stepRegister
  cases next : (threads.notifier.parker.stepRegister stage).2 with
  | done =>
      rw [next] at kept
      have left := guarded.slot_of_done begun next
      simp only [stepWaiter, standing, next]
      refine ⟨kept, by simp, fun _ => ?_, by simp [WaitStage.announced]⟩
      obtain slot | ⟨handle, rfl⟩ := left
      · exact .inr (.inl slot)
      · exact .inl (Bool.or_true _)
  | _ =>
      rw [next] at kept
      simp only [stepWaiter, standing, next]
      exact ⟨kept, by simp, by simp [WaitStage.registered], by simp [WaitStage.announced]⟩

theorem Attended.stepWaiter (attended : threads.Attended) : threads.stepWaiter.Attended := by
  by_cases registers : ∃ stage, threads.waiting = .register stage
  · obtain ⟨stage, standing⟩ := registers
    exact attended.stepRegister standing
  have free := WaitStage.free_of_elsewhere registers
  cases standing : threads.waiting with
  | idle =>
      simp only [WakeThreads.stepWaiter, standing]
      exact attended
  | evaluate =>
      simp only [WakeThreads.stepWaiter, standing]
      split
      · exact attended.pass rfl rfl free rfl (by simp) rfl
      · exact attended.pass rfl rfl free rfl (by simp) rfl
  | register stage => exact absurd ⟨stage, standing⟩ registers
  | exchange =>
      by_cases notified : threads.notifier.signal = .notified
      · simp only [WakeThreads.stepWaiter, standing, Notifier.exchange, notified, ↓reduceIte]
        exact attended.pass rfl rfl free rfl (by simp) rfl
      · simp only [WakeThreads.stepWaiter, standing, Notifier.exchange, notified, ↓reduceIte]
        exact {
          guarded := attended.guarded.restage free rfl
          begun := by simp
          findable := fun _ => attended.findable (by rw [standing]; rfl)
          answered := fun _ => .inl rfl }
  | disarm =>
      simp only [WakeThreads.stepWaiter, standing]
      exact attended.pass (threads.notifier.replace_parker _ _) rfl free rfl (by simp) rfl
  | evaluateAgain =>
      simp only [WakeThreads.stepWaiter, standing]
      split
      · exact attended.pass rfl rfl free rfl (by simp) rfl
      · exact {
          guarded := attended.guarded.restage free rfl
          begun := by simp
          findable := fun _ => attended.findable (by rw [standing]; rfl)
          answered := fun _ => attended.answered (by rw [standing]; rfl) }
  | park =>
      simp only [WakeThreads.stepWaiter, standing]
      split
      · exact attended.pass rfl rfl free rfl (by simp) rfl
      · exact attended
  | acknowledge =>
      simp only [WakeThreads.stepWaiter, standing]
      exact attended.pass (threads.notifier.replace_parker _ _) rfl free rfl (by simp) rfl

theorem Attended.startWait (attended : threads.Attended) (goal : κ → Bool) :
    (threads.startWait goal).Attended := by
  cases standing : threads.waiting with
  | idle =>
      have free : threads.waiting.registering.holdsLock = false := by rw [standing]; rfl
      simp only [WakeThreads.startWait, standing]
      exact attended.pass rfl rfl free rfl (by simp) rfl
  | _ =>
      simp only [WakeThreads.startWait, standing]
      exact attended

/-! The notifying threads. -/

/-- A notifying thread that is not at the parker goes on. -/
theorem Attended.place (attended : threads.Attended)
    (standing : threads.notifying[index]? = some stage) (same : next.taking = stage.taking) :
    (threads.place index next).Attended := by
  have taker : (threads.place index next).taker = threads.taker := by
    rw [taker_place standing, same, ← taker_of_stage standing, Function.update_eq_self]
  exact {
    guarded := by rw [taker]; exact attended.guarded
    begun := attended.begun
    findable := by rw [taker]; exact attended.findable
    answered := by unfold Awaking; rw [taker]; exact attended.answered }

theorem Attended.startNotify (attended : threads.Attended) (index : Nat) (update : κ → κ) :
    (threads.startNotify index update).Attended := by
  unfold WakeThreads.startNotify
  split
  next standing => exact attended.place standing rfl
  next => exact attended

theorem Attended.exchange (attended : threads.Attended)
    (standing : threads.notifying[index]? = some .exchange) :
    (threads.stepNotifier index).Attended := by
  let notified : WakeThreads κ :=
    { threads with notifier := (threads.notifier.exchange .notified).2 }
  have mine : threads.taker index = .done none := taker_of_stage standing
  by_cases waiting : threads.notifier.signal = .waiting
  · have moves : threads.stepNotifier index = notified.place index (.take .announce) := by
      simp [stepNotifier, standing, stepNotify, Notifier.exchange, waiting, notified]
    have taker : (notified.place index (.take .announce)).taker =
        Function.update threads.taker index .announce := taker_place standing
    rw [moves]
    exact {
      guarded := by
        rw [taker]
        exact attended.guarded.retake (by rw [mine]; rfl) (by simp)
      begun := attended.begun
      findable := by
        intro registered
        rw [taker]
        exact (attended.findable registered).imp id
          (.retake · (by simp [mine, TakeStage.isCarrying]))
      answered := by
        intro _
        have wakes : ((notified.place index (.take .announce)).taker index).isWaking = true := by
          rw [taker, Function.update_self]
          rfl
        exact .inr ⟨rfl, .inr ⟨index, wakes⟩⟩ }
  · -- the notification before this one has yet to be consumed
    have moves : threads.stepNotifier index = notified.place index .idle := by
      simp [stepNotifier, standing, stepNotify, Notifier.exchange, waiting, notified]
    have kept : notified.Attended :=
      { attended with
        answered := by
          intro announced
          obtain waits | ⟨-, awaking⟩ := attended.answered announced
          · exact absurd waits waiting
          · exact .inr ⟨rfl, awaking⟩ }
    rw [moves]
    exact kept.place standing rfl

theorem Attended.stepTake {taking : TakeStage WaiterHandle} (attended : threads.Attended)
    (standing : threads.notifying[index]? = some (.take taking))
    (unfinished : ∀ handle, taking ≠ .done handle) : (threads.stepNotifier index).Attended := by
  let stepped := threads.notifier.parker.stepTake taking
  let taken : WakeThreads κ := { threads with notifier.parker := stepped.1 }
  have mine : threads.taker index = taking := taker_of_stage standing
  let next : NotifyStage κ := .ofTaking stepped.2
  have moves : threads.stepNotifier index = taken.place index next := by
    simp only [stepNotifier, standing]
    cases taking with
    | done handle => exact absurd rfl (unfinished handle)
    | _ => rfl
  have taker : (taken.place index next).taker =
      Function.update threads.taker index stepped.2 := by
    rw [← NotifyStage.taking_ofTaking stepped.2]
    exact taker_place standing
  rw [moves]
  exact {
    guarded := by
      rw [taker]
      exact attended.guarded.stepTake mine
    begun := attended.begun
    findable := by
      intro registered
      rw [taker]
      exact (attended.findable registered).imp id (.stepTake · mine)
    answered := by
      intro announced
      have registered : threads.waiting.registered = true :=
        WaitStage.registered_of_announced announced
      have free : threads.waiting.registering.holdsLock = false := by
        rw [WaitStage.registering_of_registered registered]
        rfl
      obtain waits | ⟨notified, token | waking⟩ := attended.answered announced
      · exact .inl waits
      · exact .inr ⟨notified, .inl token⟩
      · refine .inr ⟨notified, ?_⟩
        obtain token | findable := attended.findable registered
        · exact .inl token
        · right
          rw [taker]
          exact attended.guarded.stepTake_waking free findable mine waking }

/-- Unparking sets the token, if the thread has the handle. -/
theorem Attended.unpark {handle : Option WaiterHandle} (attended : threads.Attended)
    (standing : threads.notifying[index]? = some (.take (.done handle))) :
    (threads.stepNotifier index).Attended := by
  cases handle with
  | none =>
      have moves : threads.stepNotifier index = threads.place index .idle := by
        simp [stepNotifier, standing, stepNotify]
      rw [moves]
      exact attended.place standing rfl
  | some handle =>
      let unparked : WakeThreads κ := { threads with token := true }
      have mine : threads.taker index = .done (some handle) := taker_of_stage standing
      have moves : threads.stepNotifier index = unparked.place index .idle := by
        simp [stepNotifier, standing, stepNotify, unparked]
      have taker : (unparked.place index .idle).taker =
          Function.update threads.taker index (.done none) := taker_place standing
      rw [moves]
      exact {
        guarded := by
          rw [taker]
          exact attended.guarded.retake (by rw [mine]; rfl) (by simp)
        begun := attended.begun
        findable := fun _ => .inl rfl
        answered := by
          intro announced
          obtain waits | ⟨notified, -⟩ := attended.answered announced
          · exact .inl waits
          · exact .inr ⟨notified, .inl rfl⟩ }

theorem Attended.stepNotifier (attended : threads.Attended) (index : Nat) :
    (threads.stepNotifier index).Attended := by
  cases standing : threads.notifying[index]? with
  | none =>
      simp only [WakeThreads.stepNotifier, standing]
      exact attended
  | some stage =>
      cases stage with
      | idle =>
          simp only [WakeThreads.stepNotifier, standing, stepNotify]
          exact attended.place standing rfl
      | change update =>
          have changed : ({ threads with condition := update threads.condition } :
              WakeThreads κ).Attended := { attended with }
          simp only [WakeThreads.stepNotifier, standing, stepNotify]
          exact changed.place standing rfl
      | exchange => exact attended.exchange standing
      | take taking =>
          cases taking with
          | done handle => exact attended.unpark standing
          | _ => exact attended.stepTake standing (by simp)

end WakeThreads

end Handoff.Wake
