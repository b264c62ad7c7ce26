import Handoff.OneShot.Action
import Mathlib.Data.List.Infix

namespace Handoff.OneShot

/-! What a one-shot channel answers follows from what was asked of it and how that was
answered, and from nothing else.  The first value that is offered is accepted and can be
received once, whoever has left in the meantime.
-/

/-- What was asked of a channel, by whomever, and how it was answered; oldest first. -/
abbrev History (α : Type u) := List (Action α × Answer α)

/-- The values that were offered while there was a sender. -/
def offeredIn (past : History α) : List α :=
  past.filterMap fun
    | (.send _, .gone) => none
    | (.send value, _) => some value
    | _ => none

def acceptedIn (past : History α) : List α :=
  past.filterMap fun
    | (.send value, .done) => some value
    | _ => none

/-- The values that arrived, in a register or otherwise. -/
def receivedIn (past : History α) : List α :=
  past.filterMap fun
    | (_, .received value) | (_, .register .success value) => some value
    | _ => none

def senderLeft (past : History α) : Bool :=
  past.any fun
    | (.dropSender, .done) => true
    | _ => false

def receiverLeft (past : History α) : Bool :=
  past.any fun
    | (.dropReceiver, .done) => true
    | _ => false

/-- What an attempt to receive has to come to. -/
def verdict (past : History α) : Except TryReceiveError α :=
  match receivedIn past, (offeredIn past).head? with
  | _ :: _, _ => .error .received
  | [], some value => .ok value
  | [], none => .error (if senderLeft past then .closed else .empty)

def Answer.ofVerdict : Except TryReceiveError α → Answer α
  | .ok value => .received value
  | .error error => .notReceived error

/-- What an action has to be answered. -/
def expected (past : History α) : Action α → Answer α
  | .send value =>
      if senderLeft past then .gone
      else if (offeredIn past).isEmpty then .done else .notSent ⟨value⟩
  | .tryReceive => if receiverLeft past then .gone else .ofVerdict (verdict past)
  | .receiveInto register =>
      if receiverLeft past then .gone
      else
        match verdict past with
        | .ok value => .register .success value
        | .error .empty => .register .channelEmpty register
        | .error .closed => .register .channelClosed register
        | .error .received => .register .receiverClosed register
  | .dropSender => if senderLeft past then .gone else .done
  | .dropReceiver => if receiverLeft past then .gone else .done
  | .describe =>
      .described
        (if senderLeft past then none
          else some ⟨"Sender", [("sent", Text.Record.ofBool !(offeredIn past).isEmpty)]⟩)
        (if receiverLeft past then none
          else some ⟨"Receiver", [("received", Text.Record.ofBool !(receivedIn past).isEmpty)]⟩)
  | .unknown _ => .refused

/-- Everything was answered as it had to be.  A receiver that is blocked cannot be dropped. -/
inductive Lawful : History α → Prop where
  | nil : Lawful []
  | snoc {past : History α} (lawful : Lawful past) (action : Action α) :
      Lawful (past ++ [(action, expected past action)])
  | blocked {past : History α} (lawful : Lawful past) :
      Lawful (past ++ [(.dropReceiver, .refused)])

variable {past : History α}

theorem offeredIn_append (first second : History α) :
    offeredIn (first ++ second) = offeredIn first ++ offeredIn second :=
  List.filterMap_append

theorem acceptedIn_append (first second : History α) :
    acceptedIn (first ++ second) = acceptedIn first ++ acceptedIn second :=
  List.filterMap_append

theorem receivedIn_append (first second : History α) :
    receivedIn (first ++ second) = receivedIn first ++ receivedIn second :=
  List.filterMap_append

theorem senderLeft_append (first second : History α) :
    senderLeft (first ++ second) = (senderLeft first || senderLeft second) :=
  List.any_append

theorem receiverLeft_append (first second : History α) :
    receiverLeft (first ++ second) = (receiverLeft first || receiverLeft second) :=
  List.any_append

/-- There is something to wait for: a sender that has not sent. -/
def Pending (past : History α) : Prop :=
  offeredIn past = [] ∧ senderLeft past = false

/-- When an attempt to receive comes to what. -/
structure Verdicts (past : History α) : Prop where
  empty : verdict past = .error .empty ↔ offeredIn past = [] ∧ senderLeft past = false
  closed : verdict past = .error .closed ↔ offeredIn past = [] ∧ senderLeft past = true
  received : verdict past = .error .received ↔ receivedIn past ≠ []
  value : ∀ value, verdict past = .ok value ↔
    receivedIn past = [] ∧ (offeredIn past).head? = some value

theorem verdict_eq_ok {value : α} : verdict past = .ok value ↔
    receivedIn past = [] ∧ (offeredIn past).head? = some value := by
  rw [verdict]
  split <;> simp_all

theorem verdict_eq_received : verdict past = .error .received ↔ receivedIn past ≠ [] := by
  rw [verdict]
  split
  · simp_all
  · simp_all
  · cases senderLeft past <;> simp_all

/-- A value that arrives is the one that was to be received. -/
theorem received_of_expected (past : History α) (action : Action α) :
    receivedIn [(action, expected past action)] = [] ∨
      ∃ value, verdict past = .ok value ∧
        receivedIn [(action, expected past action)] = [value] := by
  cases action with
  | send value =>
      rw [expected]
      cases senderLeft past <;> cases (offeredIn past).isEmpty <;> exact .inl rfl
  | tryReceive =>
      rw [expected]
      cases receiverLeft past with
      | true => exact .inl rfl
      | false =>
          cases verdict past with
          | ok value => exact .inr ⟨value, rfl, rfl⟩
          | error => exact .inl rfl
  | receiveInto register =>
      rw [expected]
      cases receiverLeft past with
      | true => exact .inl rfl
      | false =>
          cases verdict past with
          | ok value => exact .inr ⟨value, rfl, rfl⟩
          | error error => cases error <;> exact .inl rfl
  | dropSender => rw [expected]; cases senderLeft past <;> exact .inl rfl
  | dropReceiver => rw [expected]; cases receiverLeft past <;> exact .inl rfl
  | describe => exact .inl rfl
  | unknown => exact .inl rfl

/-- Nothing but the first value that is offered is ever received, and that only once. -/
theorem Lawful.received_prefix (lawful : Lawful past) :
    receivedIn past <+: (offeredIn past).take 1 := by
  induction lawful with
  | nil => exact List.prefix_rfl
  | @snoc past lawful action ih =>
      have grows : (offeredIn past).take 1 <+:
          (offeredIn (past ++ [(action, expected past action)])).take 1 := by
        rw [offeredIn_append]
        cases offeredIn past with
        | nil => exact List.nil_prefix
        | cons => exact List.prefix_rfl
      rw [receivedIn_append]
      obtain nothing | ⟨value, decided, arrives⟩ := received_of_expected past action
      · rw [nothing, List.append_nil]
        exact ih.trans grows
      · obtain ⟨before, first⟩ := verdict_eq_ok.mp decided
        obtain ⟨rest, offered⟩ := List.head?_eq_some_iff.mp first
        rw [arrives, before]
        rw [offered] at grows
        exact grows
  | blocked lawful ih =>
      rw [receivedIn_append, offeredIn_append]
      simpa [receivedIn, offeredIn] using ih

/-- Sending succeeds with the first value that is offered. -/
theorem Lawful.accepted_eq (lawful : Lawful past) : acceptedIn past = (offeredIn past).take 1 := by
  induction lawful with
  | nil => rfl
  | @snoc past lawful action ih =>
      rw [acceptedIn_append, offeredIn_append, ih]
      cases action with
      | send value =>
          rw [expected]
          cases senderLeft past with
          | true => simp [acceptedIn, offeredIn]
          | false => cases offeredIn past <;> rfl
      | _ => simp [acceptedIn, offeredIn]
  | blocked lawful ih =>
      rw [acceptedIn_append, offeredIn_append, ih]
      simp [acceptedIn, offeredIn]

/-- What is not sent comes back. -/
theorem Lawful.returned (lawful : Lawful past) {value : α} {error : SendError α}
    (member : (.send value, .notSent error) ∈ past) : error = ⟨value⟩ := by
  induction lawful with
  | nil => cases member
  | @snoc past lawful action ih =>
      rcases List.mem_append.mp member with earlier | last
      · exact ih earlier
      · obtain ⟨rfl, answer⟩ := Prod.mk.inj (List.mem_singleton.mp last)
        rw [expected] at answer
        split at answer
        · cases answer
        · split at answer
          · cases answer
          · exact Answer.notSent.inj answer
  | blocked lawful ih =>
      rcases List.mem_append.mp member with earlier | last
      · exact ih earlier
      · cases List.mem_singleton.mp last

theorem Lawful.verdicts (lawful : Lawful past) : Verdicts past := by
  have nothing (none : offeredIn past = []) : receivedIn past = [] := by
    have first := lawful.received_prefix
    rwa [none, List.take_nil, List.prefix_nil] at first
  have undecided (none : offeredIn past = []) :
      verdict past = .error (if senderLeft past then .closed else .empty) := by
    rw [verdict, nothing none, none]
    rfl
  have decided (some : offeredIn past ≠ []) :
      verdict past ≠ .error .empty ∧ verdict past ≠ .error .closed := by
    obtain ⟨value, rest, offered⟩ := List.exists_cons_of_ne_nil some
    rw [verdict, offered]
    cases receivedIn past <;> simp
  refine ⟨?_, ?_, verdict_eq_received, fun _ => verdict_eq_ok⟩
  · by_cases none : offeredIn past = []
    · rw [undecided none]
      cases senderLeft past <;> simp [none]
    · exact iff_of_false (decided none).1 fun both => none both.1
  · by_cases none : offeredIn past = []
    · rw [undecided none]
      cases senderLeft past <;> simp [none]
    · exact iff_of_false (decided none).2 fun both => none both.1

theorem Lawful.of_prefix {earlier : History α} (lawful : Lawful past) (begins : earlier <+: past) :
    Lawful earlier := by
  induction lawful with
  | nil => exact List.prefix_nil.mp begins ▸ .nil
  | snoc lawful action ih =>
      obtain rfl | begins := List.prefix_concat_iff.mp begins
      · exact lawful.snoc action
      · exact ih begins
  | blocked lawful ih =>
      obtain rfl | begins := List.prefix_concat_iff.mp begins
      · exact lawful.blocked
      · exact ih begins

/-- The history of a run: everything was answered as it had to be, only the first value was
sent and received, and an attempt to receive came to what it says. -/
structure Delivers (history : History α) : Prop where
  lawful : Lawful history
  sent : acceptedIn history = (offeredIn history).take 1
  returned : ∀ value error, (.send value, .notSent error) ∈ history → error = ⟨value⟩
  received : receivedIn history <+: (offeredIn history).take 1
  verdicts : ∀ earlier, earlier <+: history → Verdicts earlier

theorem Lawful.delivers (lawful : Lawful past) : Delivers past where
  lawful := lawful
  sent := lawful.accepted_eq
  returned _ _ := lawful.returned
  received := lawful.received_prefix
  verdicts _ begins := (lawful.of_prefix begins).verdicts

end Handoff.OneShot
