import Handoff.Wake.Notifier

namespace Handoff.Wake

/-! A waiting thread and any number of notifying threads.  One step takes a thread
over one access to a state word or to the slot of the parker, one evaluation of
the condition, one unparking or one parking.
-/

/-- Where a thread stands that leaves its handle in a parker. -/
inductive RegisterStage (η : Type u) where
  | acquire (handle : η)
  | put (handle : η)
  | release (replaced : Option η)
  /-- A taker came by: the handle is taken out again on its behalf. -/
  | retract (replaced : Option η)
  | reset (replaced pending : Option η)
  | unpark (handle : η)
  | done
deriving DecidableEq

/-- Where a thread stands that takes a handle out of a parker. -/
inductive TakeStage (η : Type u) where
  | announce
  | vacate
  | reset (handle : Option η)
  | done (handle : Option η)
deriving DecidableEq

namespace Parker

/-- With only a taker in the way the thread tries again; if another thread is
registering, that one is left to it. -/
def stepRegister (parker : Parker η) : RegisterStage η → Parker η × RegisterStage η
  | .acquire handle =>
      match parker.acquire? with
      | some locked => (locked, .put handle)
      | none =>
          if parker.lock.registering then (parker, .done) else (parker, .acquire handle)
  | .put handle => (parker.put handle, .release parker.slot)
  | .release replaced =>
      match parker.release? with
      | some released => (released, .done)
      | none => (parker, .retract replaced)
  | .retract replaced =>
      let (pending, vacated) := parker.vacate
      (vacated, .reset replaced pending)
  | .reset _ pending =>
      match pending with
      | some handle => (parker.reset, .unpark handle)
      | none => (parker.reset, .done)
  | .unpark _ => (parker, .done)
  | .done => (parker, .done)

def stepTake (parker : Parker η) : TakeStage η → Parker η × TakeStage η
  | .announce =>
      let (before, announced) := parker.announce
      if before = .idle then (announced, .vacate) else (announced, .done none)
  | .vacate =>
      let (handle, vacated) := parker.vacate
      (vacated, .reset handle)
  | .reset handle => (parker.reset, .done handle)
  | .done handle => (parker, .done handle)

end Parker

/-- Where the waiting thread stands in its wait. -/
inductive WaitStage where
  | idle
  | evaluate
  | register (stage : RegisterStage WaiterHandle)
  | exchange
  | disarm
  | evaluateAgain
  | park
  | acknowledge
deriving DecidableEq

/-- Where a notifying thread stands.  It changes the condition and then
notifies. -/
inductive NotifyStage (κ : Type u) where
  | idle
  | change (update : κ → κ)
  | exchange
  | take (stage : TakeStage WaiterHandle)

/-- `condition` is what the notifying threads change, and `goal` what the waiting
thread waits for it to fulfil. -/
structure WakeThreads (κ : Type u) where
  notifier : Notifier := {}
  token : Bool := false
  condition : κ
  goal : κ → Bool := fun _ => true
  waiting : WaitStage := .idle
  notifying : List (NotifyStage κ)

namespace WakeThreads

def startWait (threads : WakeThreads κ) (goal : κ → Bool) : WakeThreads κ :=
  match threads.waiting with
  | .idle => { threads with goal := goal, waiting := .evaluate }
  | _ => threads

def holds (threads : WakeThreads κ) : Bool :=
  threads.goal threads.condition

def stepWaiter (threads : WakeThreads κ) : WakeThreads κ :=
  match threads.waiting with
  | .idle => threads
  | .evaluate =>
      if threads.holds then { threads with waiting := .idle }
      else { threads with waiting := .register (.acquire .waiter) }
  | .register stage =>
      let (parker, next) := threads.notifier.parker.stepRegister stage
      let unparked := match stage with
        | .unpark _ => true
        | _ => false
      { threads with
        notifier := { threads.notifier with parker := parker }
        token := threads.token || unparked
        waiting := match next with
          | .done => .exchange
          | next => .register next }
  | .exchange =>
      let (before, notifier) := threads.notifier.exchange .waiting
      { threads with
        notifier := notifier
        waiting := if before = .notified then .disarm else .evaluateAgain }
  | .disarm =>
      { threads with
        notifier := threads.notifier.replace .waiting .empty
        waiting := .evaluate }
  | .evaluateAgain =>
      if threads.holds then { threads with waiting := .idle }
      else { threads with waiting := .park }
  | .park =>
      if threads.token then { threads with token := false, waiting := .acknowledge }
      else threads
  | .acknowledge =>
      { threads with
        notifier := threads.notifier.replace .notified .empty
        waiting := .evaluate }

/-- The step of a notifying thread that stands at `stage`. -/
def stepNotify (threads : WakeThreads κ) :
    NotifyStage κ → WakeThreads κ × NotifyStage κ
  | .idle => (threads, .idle)
  | .change update => ({ threads with condition := update threads.condition }, .exchange)
  | .exchange =>
      let (before, notifier) := threads.notifier.exchange .notified
      ({ threads with notifier := notifier },
        if before = .waiting then .take .announce else .idle)
  | .take (.done handle) => ({ threads with token := threads.token || handle.isSome }, .idle)
  | .take stage =>
      let (parker, next) := threads.notifier.parker.stepTake stage
      ({ threads with notifier := { threads.notifier with parker := parker } },
        match next with
          | .done none => .idle
          | next => .take next)

def place (threads : WakeThreads κ) (index : Nat) (stage : NotifyStage κ) : WakeThreads κ :=
  { threads with notifying := threads.notifying.set index stage }

def startNotify (threads : WakeThreads κ) (index : Nat) (update : κ → κ) : WakeThreads κ :=
  match threads.notifying[index]? with
  | some .idle => threads.place index (.change update)
  | _ => threads

def stepNotifier (threads : WakeThreads κ) (index : Nat) : WakeThreads κ :=
  match threads.notifying[index]? with
  | some stage =>
      let (threads, next) := threads.stepNotify stage
      threads.place index next
  | none => threads

end WakeThreads

end Handoff.Wake
