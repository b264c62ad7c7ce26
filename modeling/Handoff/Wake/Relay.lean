import Handoff.Wake.Interleaving

namespace Handoff.Wake

/-! Threads that count up together and notify after every count, and one that
waits for each count in turn.  The threads take turns, one step each.
-/

structure Relay where
  threads : WakeThreads Nat
  /-- How often each notifying thread has still to count. -/
  remaining : List Nat
  /-- The counts that have been waited for, the current one included. -/
  rounds : Nat := 0
  total : Nat

namespace Relay

def ofThreads (notifiers each : Nat) : Relay :=
  { threads := { condition := 0, notifying := List.replicate notifiers .idle }
    remaining := List.replicate notifiers each
    total := notifiers * each }

/-- The waiting thread waits for one count after the other. -/
def waiterTurn (relay : Relay) : Relay :=
  match relay.threads.waiting with
  | .idle =>
      if relay.rounds < relay.total then
        let round := relay.rounds + 1
        { relay with
          threads := relay.threads.startWait fun count => round ≤ count
          rounds := round }
      else relay
  | _ => { relay with threads := relay.threads.stepWaiter }

/-- A notifying thread that is done with one count begins the next. -/
def notifierTurn (relay : Relay) (index : Nat) : Relay :=
  match relay.threads.notifying[index]?, relay.remaining[index]? with
  | some .idle, some (left + 1) =>
      { relay with
        threads := relay.threads.startNotify index (· + 1)
        remaining := relay.remaining.set index left }
  | _, _ => { relay with threads := relay.threads.stepNotifier index }

def round (relay : Relay) : Relay :=
  (List.range relay.remaining.length).foldl notifierTurn relay.waiterTurn

def isOver (relay : Relay) : Bool :=
  relay.rounds == relay.total && relay.threads.waiting == .idle &&
    relay.remaining.all (· == 0)

def run : Nat → Relay → Relay
  | 0, relay => relay
  | rounds + 1, relay => if relay.isOver then relay else run rounds relay.round

/-- More rounds than a thread needs to wait for one count. -/
def roundsPerCount : Nat := 32

/-- The final count, and how many counts were waited for. -/
def complete (notifiers each : Nat) : Nat × Nat :=
  let ended := run (roundsPerCount * (notifiers * each + 1)) (ofThreads notifiers each)
  (ended.threads.condition, ended.rounds)

end Relay

end Handoff.Wake
