import Handoff.Proofs.Ring.Queue

namespace Handoff.Ring

/-! Bookkeeping from what can be seen of a run.  The ledger is told the calls, their
replies and the events, and nothing else; it writes down which values were accepted
and how elements left the channel, both in order.  Every event that destroys a value
is booked as an exit, but for the old content of a register, which never was in the
channel.
-/

inductive Exit (α : Type u) where
  | received (value : α)
  /-- Destroyed to make room; `cursor` is the position that was reported. -/
  | overwritten (value : α) (cursor : Nat)
  /-- Destroyed in any other way. -/
  | freed (value : α)
deriving DecidableEq

namespace Exit

def value : Exit α → α
  | .received value | .overwritten value _ | .freed value => value

/-- What is noted when an element leaves. -/
def notice? : Exit α → Option Notice
  | .overwritten _ cursor => some (.oldestOverwritten cursor)
  | .received _ | .freed _ => none

def isFreed : Exit α → Bool
  | .freed _ => true
  | .received _ | .overwritten .. => false

end Exit

/-- The values that events say were destroyed. -/
def exitsIn : List (Event α) → List (Exit α)
  | [] => []
  | .destroyed value :: .noted (.oldestOverwritten cursor) :: rest =>
      .overwritten value cursor :: exitsIn rest
  | .destroyed value :: rest => .freed value :: exitsIn rest
  | _ :: rest => exitsIn rest

def receiverNotices (log : List (Event α)) : Nat :=
  log.countP fun
    | .notified .receiver => true
    | _ => false

def noticesIn (log : List (Event α)) : List Notice :=
  log.filterMap fun
    | .noted notice => some notice
    | _ => none

theorem receiverNotices_append (first second : List (Event α)) :
    receiverNotices (first ++ second) = receiverNotices first + receiverNotices second :=
  List.countP_append

theorem noticesIn_append (first second : List (Event α)) :
    noticesIn (first ++ second) = noticesIn first ++ noticesIn second :=
  List.filterMap_append

theorem mem_noticesIn {notice : Notice} {log : List (Event α)} :
    notice ∈ noticesIn log ↔ .noted notice ∈ log := by
  rw [noticesIn, List.mem_filterMap]
  constructor
  · rintro ⟨event, member, same⟩
    cases event with
    | noted other =>
        cases same
        exact member
    | destroyed value => cases same
    | notified waiter => cases same
  · intro member
    exact ⟨_, member, rfl⟩

theorem receiverNotices_receiver :
    receiverNotices [(Event.notified .receiver : Event α)] = 1 := rfl

theorem receiverNotices_sender :
    receiverNotices [(Event.notified .sender : Event α)] = 0 := rfl

theorem receiverNotices_cons_sender (log : List (Event α)) :
    receiverNotices (.notified .sender :: log) = receiverNotices log := by
  simp [receiverNotices]

namespace Action

/-- The values an action got accepted.  A drain does not tell the answers of its
sends, but each accepted one notifies the receiver. -/
def acceptedBy : Action α → Answer α → List (Event α) → List α
  | .trySend value, .done, _ => [value]
  | .drain _ feed, _, log => feed.take (receiverNotices log)
  | _, _, _ => []

/-- The elements that left by an action.  What is destroyed last by receiving into a
register is what the register held before. -/
def exitsBy : Answer α → List (Event α) → List (Exit α)
  | .received value, log => .received value :: exitsIn log
  | .register .success content, log => .received content :: exitsIn log.dropLast
  | .drained result, log => result.items.map .received ++ exitsIn log
  | _, log => exitsIn log

/-- The value of a rejected send, and what came back for it. -/
def returnedBy : Action α → Answer α → List (α × α)
  | .trySend value, .notSent error => [(value, error.value)]
  | _, _ => []

end Action

/-- `pending` are the events of an action whose answer is not known yet. -/
structure Ledger (α : Type u) where
  accepted : List α := []
  exits : List (Exit α) := []
  notices : List Notice := []
  returned : List (α × α) := []
  pending : List (Event α) := []

namespace Ledger

def book (ledger : Ledger α) (action : Action α) (answer : Answer α) (log : List (Event α)) :
    Ledger α :=
  { accepted := ledger.accepted ++ action.acceptedBy answer log
    exits := ledger.exits ++ Action.exitsBy answer log
    notices := ledger.notices ++ noticesIn log
    returned := ledger.returned ++ action.returnedBy answer }

/-- Books what is pending after an attempt that failed. -/
def settle (ledger : Ledger α) (returned : List (α × α)) : Ledger α :=
  { accepted := ledger.accepted
    exits := ledger.exits ++ exitsIn ledger.pending
    notices := ledger.notices ++ noticesIn ledger.pending
    returned := ledger.returned ++ returned }

def enter (ledger : Ledger α) : ChannelEntry α → Ledger α
  | .event event => { ledger with pending := ledger.pending ++ [event] }
  | .acted action answer _ => ledger.book action answer ledger.pending
  | .waiting .. | .resumed .. => ledger

def read (ledger : Ledger α) (entries : List (ChannelEntry α)) : Ledger α :=
  entries.foldl enter ledger

/-- A blocking call that succeeds is booked like the attempt that succeeded. -/
def close (ledger : Ledger α) : Call α → Reply α → Ledger α
  | .act action, .plain answer => ledger.book action answer ledger.pending
  | .send value _, .sent (.ok ()) => ledger.book (.trySend value) .done ledger.pending
  | .send value _, .sent (.error error) => ledger.settle [(value, error.value)]
  | .receive _, .received (.ok value) =>
      ledger.book .tryReceive (.received value) ledger.pending
  | _, _ => ledger.settle []

def readTurn (ledger : Ledger α) (turn : Turn α) : Ledger α :=
  (ledger.read turn.log).close turn.call turn.reply

def readTurns (ledger : Ledger α) (turns : List (Turn α)) : Ledger α :=
  turns.foldl readTurn ledger

/-- The books of a whole run. -/
def ofTurns (turns : List (Turn α)) : Ledger α :=
  readTurns {} turns

variable {ledger : Ledger α}

@[simp] theorem read_nil (ledger : Ledger α) : ledger.read [] = ledger := rfl

@[simp] theorem read_append (ledger : Ledger α) (first second : List (ChannelEntry α)) :
    ledger.read (first ++ second) = (ledger.read first).read second :=
  List.foldl_append

@[simp] theorem read_cons (ledger : Ledger α) (entry : ChannelEntry α)
    (rest : List (ChannelEntry α)) :
    ledger.read (entry :: rest) = (ledger.enter entry).read rest := rfl

theorem ofTurns_append (first second : List (Turn α)) :
    ofTurns (first ++ second) = (ofTurns first).readTurns second :=
  List.foldl_append

theorem read_events (ledger : Ledger α) (log : List (Event α)) :
    ledger.read (log.map .event) = { ledger with pending := ledger.pending ++ log } := by
  induction log generalizing ledger with
  | nil => simp
  | cons event rest ih => simp [enter, ih]

/-- An action of the peer is booked as soon as its answer is known. -/
theorem read_acted (clear : ledger.pending = []) (action : Action α) (answer : Answer α)
    (ends : EndReports) (log : List (Event α)) :
    ledger.read (log.map .event ++ [.acted action answer ends]) =
      ledger.book action answer log := by
  rw [read_append, read_events]
  simp [enter, book, clear]

/-! Nothing is ever struck out, so the books of a part of a run never hold more than
those of the whole run. -/

theorem accepted_le_read (ledger : Ledger α) (entries : List (ChannelEntry α)) :
    ledger.accepted.length ≤ (ledger.read entries).accepted.length := by
  induction entries generalizing ledger with
  | nil => exact Nat.le_refl _
  | cons entry rest ih =>
      refine Nat.le_trans ?_ (ih (ledger.enter entry))
      cases entry <;> simp [enter, book]

theorem accepted_le_close (ledger : Ledger α) (call : Call α) (reply : Reply α) :
    ledger.accepted.length ≤ (ledger.close call reply).accepted.length := by
  unfold close
  split <;> simp [book, settle]

theorem accepted_le_andThen (ledger : Ledger α) (first : Outcome σ (ChannelEntry α) ρ)
    (next : ρ → σ → Outcome σ (ChannelEntry α) τ) (call : Call α) (reply : Reply α) :
    (ledger.read first.log).accepted.length ≤
      ((ledger.read (first.andThen next).log).close call reply).accepted.length := by
  rw [Outcome.andThen_log, read_append]
  exact Nat.le_trans (accepted_le_read _ _) (accepted_le_close _ _ _)

theorem accepted_le_readTurns (ledger : Ledger α) (turns : List (Turn α)) :
    ledger.accepted.length ≤ (ledger.readTurns turns).accepted.length := by
  induction turns generalizing ledger with
  | nil => exact Nat.le_refl _
  | cons turn rest ih =>
      calc ledger.accepted.length
        _ ≤ (ledger.read turn.log).accepted.length := ledger.accepted_le_read turn.log
        _ ≤ (ledger.readTurn turn).accepted.length := accepted_le_close _ turn.call turn.reply
        _ ≤ _ := ih (ledger.readTurn turn)

end Ledger

end Handoff.Ring
