import Handoff.Proofs.Notifications
import Handoff.Proofs.OneShot.History

namespace Handoff.OneShot

/-! A one-shot channel answers as its history demands.  What it remembers of it is little:
the two ends each know whether they have done their part, and the slot knows the value.
-/

variable {past : History α}

namespace Channel

variable {channel : Channel α}

/-- What the ends remember and what the slot holds is as the history has it. -/
structure Marks (channel : Channel α) (past : History α) : Prop where
  senderAlive : channel.senderAlive = !senderLeft past
  receiverAlive : channel.receiverAlive = !receiverLeft past
  hasSent : channel.hasSent = !(offeredIn past).isEmpty
  hasReceived : channel.hasReceived = !(receivedIn past).isEmpty
  slot : channel.present = true → channel.stage = .sent → channel.slot = (offeredIn past).head?

structure Recalls (channel : Channel α) (past : History α) : Prop extends Marks channel past where
  coherent : channel.Coherent
  lawful : Lawful past

theorem recalls_new : ({} : Channel α).Recalls [] where
  senderAlive := rfl
  receiverAlive := rfl
  hasSent := rfl
  hasReceived := rfl
  slot _ sent := by cases sent
  coherent := coherent_new
  lawful := .nil

theorem Recalls.tryReceive_verdict (recalls : channel.Recalls past)
    (there : channel.present = true) : channel.tryReceive.result = verdict past := by
  have sent := recalls.coherent.hasSent
  have received := recalls.coherent.hasReceived
  have left := recalls.coherent.left
  rw [recalls.hasSent] at sent left
  rw [recalls.hasReceived] at received
  rw [recalls.senderAlive] at left
  obtain ⟨stage, tried⟩ | ⟨stage, tried⟩ | ⟨stage, tried⟩ | ⟨value, stage, slot, tried⟩ :=
    recalls.coherent.tryReceive_cases there
  · simp [stage] at sent received left
    have stays : senderLeft past = false := by simpa [sent] using left
    simp [tried, verdict, sent, received, stays]
  · simp [stage] at sent received left
    simp [tried, verdict, sent, received, left]
  · simp [stage] at received
    obtain ⟨value, rest, received⟩ := List.exists_cons_of_ne_nil received
    simp [tried, verdict, received]
  · rw [recalls.slot there stage] at slot
    simp [stage] at received
    simp [tried, verdict, received, slot]

theorem Recalls.tryReceive_result (recalls : channel.Recalls past)
    (alive : channel.receiverAlive = true) : channel.tryReceive.result = verdict past :=
  recalls.tryReceive_verdict (by simp [present, alive])

theorem Recalls.answer (recalls : channel.Recalls past) (action : Action α) :
    (channel.perform action).result = expected past action := by
  cases action with
  | send value =>
      rw [perform, ifSender, recalls.senderAlive, expected]
      cases senderLeft past with
      | true => rfl
      | false =>
          simp only [Bool.not_false, if_true, Channel.send, recalls.hasSent]
          cases (offeredIn past).isEmpty <;> rfl
  | tryReceive =>
      rw [perform, ifReceiver, expected]
      cases left : receiverLeft past with
      | true => simp [recalls.receiverAlive, left]
      | false =>
          have alive : channel.receiverAlive = true := by simp [recalls.receiverAlive, left]
          simp [alive, recalls.tryReceive_result alive]
          cases verdict past <;> rfl
  | receiveInto register =>
      rw [perform, ifReceiver, expected]
      cases left : receiverLeft past with
      | true => simp [recalls.receiverAlive, left]
      | false =>
          have alive : channel.receiverAlive = true := by simp [recalls.receiverAlive, left]
          simp [alive, receiveInto, recalls.tryReceive_result alive]
          cases verdict past with
          | ok value => rfl
          | error error => cases error <;> rfl
  | dropSender =>
      rw [perform, ifSender, recalls.senderAlive, expected]
      cases senderLeft past <;> rfl
  | dropReceiver =>
      rw [perform, ifReceiver, recalls.receiverAlive, expected]
      cases receiverLeft past <;> rfl
  | describe =>
      simp only [perform, expected, describeSender, describeReceiver, recalls.senderAlive,
        recalls.receiverAlive, recalls.hasSent, recalls.hasReceived]
      cases senderLeft past <;> cases receiverLeft past <;> rfl
  | unknown => rfl

/-! What is remembered of an action. -/

variable {act : Action α × Answer α}

theorem Marks.snoc {after : Channel α} (marks : channel.Marks past)
    (sender : after.senderAlive = (channel.senderAlive && !senderLeft [act]))
    (receiver : after.receiverAlive = (channel.receiverAlive && !receiverLeft [act]))
    (sent : after.hasSent = (channel.hasSent || !(offeredIn [act]).isEmpty))
    (received : after.hasReceived = (channel.hasReceived || !(receivedIn [act]).isEmpty))
    (slot : after.present = true → after.stage = .sent →
      after.slot = (offeredIn past ++ offeredIn [act]).head?) :
    after.Marks (past ++ [act]) where
  senderAlive := by rw [sender, marks.senderAlive, senderLeft_append, Bool.not_or]
  receiverAlive := by rw [receiver, marks.receiverAlive, receiverLeft_append, Bool.not_or]
  hasSent := by
    rw [sent, marks.hasSent, offeredIn_append]
    cases offeredIn past <;> rfl
  hasReceived := by
    rw [received, marks.hasReceived, receivedIn_append]
    cases receivedIn past <;> rfl
  slot there sent := by rw [offeredIn_append, slot there sent]

/-- Nothing has changed, and what is offered comes too late. -/
theorem Marks.unmoved (marks : channel.Marks past)
    (offers : offeredIn past = [] → offeredIn [act] = []) (receives : receivedIn [act] = [])
    (senderStays : senderLeft [act] = false) (receiverStays : receiverLeft [act] = false) :
    channel.Marks (past ++ [act]) := by
  have first : (offeredIn past ++ offeredIn [act]).head? = (offeredIn past).head? := by
    cases before : offeredIn past with
    | nil => rw [offers before, List.append_nil]
    | cons => rfl
  refine marks.snoc (by simp [senderStays]) (by simp [receiverStays]) ?_ (by simp [receives]) ?_
  · rw [marks.hasSent]
    cases before : offeredIn past with
    | nil => rw [offers before]; rfl
    | cons => rfl
  · intro there sent
    rw [first, marks.slot there sent]

theorem freeIfAbandoned_of_present (there : channel.present = true) :
    channel.freeIfAbandoned = ⟨(), channel, []⟩ := by
  rw [present] at there
  rw [freeIfAbandoned, if_pos there]

theorem freeIfAbandoned_keeps (channel : Channel α) :
    channel.freeIfAbandoned.state.senderAlive = channel.senderAlive ∧
      channel.freeIfAbandoned.state.receiverAlive = channel.receiverAlive ∧
      channel.freeIfAbandoned.state.hasSent = channel.hasSent ∧
      channel.freeIfAbandoned.state.hasReceived = channel.hasReceived := by
  rw [freeIfAbandoned]
  split
  · exact ⟨rfl, rfl, rfl, rfl⟩
  · cases stage : channel.stage <;> simp [free, stage, take]

theorem Marks.freeIfAbandoned (marks : channel.Marks past) :
    channel.freeIfAbandoned.state.Marks past := by
  obtain ⟨sender, receiver, sent, received⟩ := channel.freeIfAbandoned_keeps
  refine ⟨sender.trans marks.senderAlive, receiver.trans marks.receiverAlive,
    sent.trans marks.hasSent, received.trans marks.hasReceived, fun there => ?_⟩
  have there : channel.present = true := by rwa [present, sender, receiver] at there
  rw [freeIfAbandoned_of_present there]
  exact marks.slot there

theorem Recalls.send_marks (recalls : channel.Recalls past) (value : α) :
    (channel.perform (.send value)).state.Marks
      (past ++ [(.send value, expected past (.send value))]) := by
  rw [perform, ifSender, recalls.senderAlive, expected]
  cases left : senderLeft past with
  | true => exact recalls.unmoved (fun _ => rfl) rfl rfl rfl
  | false =>
      have there : channel.present = true := by simp [present, recalls.senderAlive, left]
      cases offered : offeredIn past with
      | nil =>
          have unsent : channel.hasSent = false := by simp [recalls.hasSent, offered]
          rw [recalls.coherent.send_of_unsent there unsent]
          refine recalls.snoc ?_ ?_ ?_ ?_ fun _ _ => by rw [offered]; rfl
          · exact (Bool.and_true _).symm
          · exact (Bool.and_true _).symm
          · exact (Bool.or_true _).symm
          · exact (Bool.or_false _).symm
      | cons first rest =>
          have sent : channel.hasSent = true := by simp [recalls.hasSent, offered]
          rw [send_of_sent sent]
          exact recalls.unmoved (fun none => by rw [offered] at none; cases none) rfl rfl rfl

theorem Recalls.tryReceive_marks (recalls : channel.Recalls past)
    (alive : channel.receiverAlive = true) (offers : offeredIn [act] = [])
    (receives : receivedIn [act] = (verdict past).toOption.toList)
    (senderStays : senderLeft [act] = false) (receiverStays : receiverLeft [act] = false) :
    channel.tryReceive.state.Marks (past ++ [act]) := by
  have there : channel.present = true := by simp [present, alive]
  rw [← recalls.tryReceive_result alive] at receives
  have unmoved (nothing : receivedIn [act] = []) : channel.Marks (past ++ [act]) :=
    recalls.unmoved (fun _ => offers) nothing senderStays receiverStays
  obtain ⟨-, tried⟩ | ⟨-, tried⟩ | ⟨-, tried⟩ | ⟨value, -, -, tried⟩ :=
    recalls.coherent.tryReceive_cases there
  · rw [tried] at receives ⊢
    exact unmoved receives
  · rw [tried] at receives ⊢
    exact unmoved receives
  · rw [tried] at receives ⊢
    exact unmoved receives
  · rw [tried] at receives ⊢
    refine recalls.snoc ?_ ?_ ?_ ?_ fun _ sent => by cases sent
    · simp [senderStays]
    · simp [receiverStays]
    · simp [offers]
    · simp [receives, Except.toOption]

theorem disconnect_keeps (channel : Channel α) :
    channel.disconnect.state.receiverAlive = channel.receiverAlive ∧
      channel.disconnect.state.hasSent = channel.hasSent ∧
      channel.disconnect.state.hasReceived = channel.hasReceived := by
  rw [disconnect]
  split <;> exact ⟨rfl, rfl, rfl⟩

theorem Recalls.dropSender_marks (recalls : channel.Recalls past) :
    (channel.perform .dropSender).state.Marks
      (past ++ [(.dropSender, expected past .dropSender)]) := by
  rw [perform, ifSender, recalls.senderAlive, expected]
  cases left : senderLeft past with
  | true => exact recalls.unmoved (fun _ => rfl) rfl rfl rfl
  | false =>
      have there : channel.present = true := by simp [present, recalls.senderAlive, left]
      have kept := congrArg List.head? (List.append_nil (offeredIn past)).symm
      refine Marks.freeIfAbandoned (recalls.snoc (Bool.and_false _).symm ?_ ?_ ?_ ?_)
      · exact (disconnect_keeps channel).1.trans (Bool.and_true _).symm
      · exact (disconnect_keeps channel).2.1.trans (Bool.or_false _).symm
      · exact (disconnect_keeps channel).2.2.trans (Bool.or_false _).symm
      · rw [disconnect]
        split
        · exact fun _ sent => (recalls.slot there sent).trans kept
        · exact fun _ sent => by cases sent

theorem Recalls.dropReceiver_marks (recalls : channel.Recalls past) :
    (channel.perform .dropReceiver).state.Marks
      (past ++ [(.dropReceiver, expected past .dropReceiver)]) := by
  rw [perform, ifReceiver, recalls.receiverAlive, expected]
  cases left : receiverLeft past with
  | true => exact recalls.unmoved (fun _ => rfl) rfl rfl rfl
  | false =>
      have there : channel.present = true := by simp [present, recalls.receiverAlive, left]
      refine Marks.freeIfAbandoned (recalls.snoc ?_ (Bool.and_false _).symm ?_ ?_ fun _ sent => ?_)
      · exact (Bool.and_true _).symm
      · exact (Bool.or_false _).symm
      · exact (Bool.or_false _).symm
      · exact (recalls.slot there sent).trans (congrArg List.head? (List.append_nil _).symm)

theorem Recalls.perform (recalls : channel.Recalls past) (action : Action α) :
    (channel.perform action).state.Recalls
      (past ++ [(action, (channel.perform action).result)]) := by
  rw [recalls.answer action]
  refine ⟨?_, recalls.coherent.perform action, recalls.lawful.snoc action⟩
  cases action with
  | send value => exact recalls.send_marks value
  | tryReceive =>
      rw [Channel.perform, ifReceiver, recalls.receiverAlive, expected]
      cases left : receiverLeft past with
      | true => exact recalls.unmoved (fun _ => rfl) rfl rfl rfl
      | false =>
          refine recalls.tryReceive_marks (by rw [recalls.receiverAlive, left]; rfl) rfl ?_ rfl rfl
          cases verdict past <;> rfl
  | receiveInto register =>
      rw [Channel.perform, ifReceiver, recalls.receiverAlive, expected]
      cases left : receiverLeft past with
      | true => exact recalls.unmoved (fun _ => rfl) rfl rfl rfl
      | false =>
          have alive : channel.receiverAlive = true := by rw [recalls.receiverAlive, left]; rfl
          simp only [Bool.not_false, if_true, Outcome.mapResult_state, receiveInto_state]
          refine recalls.tryReceive_marks alive rfl ?_ rfl rfl
          cases verdict past with
          | ok value => rfl
          | error error => cases error <;> rfl
  | dropSender => exact recalls.dropSender_marks
  | dropReceiver => exact recalls.dropReceiver_marks
  | describe => exact recalls.unmoved (fun _ => rfl) rfl rfl rfl
  | unknown name => exact recalls.unmoved (fun _ => rfl) rfl rfl rfl

/-! What is remembered of groups and calls. -/

variable {group : List (Action α)} {script : List (List (Action α))}

theorem Recalls.performAsPeer (recalls : channel.Recalls past) (action : Action α) :
    (channel.performAsPeer action).state.Recalls
      (past ++ actsIn (channel.performAsPeer action).log) := by
  rw [Channel.performAsPeer, actsIn_append, actsIn_events, List.nil_append]
  cases permitted : permits action with
  | true => exact recalls.perform action
  | false =>
      cases action with
      | dropReceiver =>
          exact ⟨recalls.unmoved (fun _ => rfl) rfl rfl rfl, recalls.coherent,
            recalls.lawful.blocked⟩
      | _ => cases permitted

theorem Recalls.performGroup (recalls : channel.Recalls past) (group : List (Action α)) :
    (channel.performGroup group).state.Recalls
      (past ++ actsIn (channel.performGroup group).log) := by
  induction group generalizing channel past with
  | nil => rwa [Channel.performGroup, actsIn, List.filterMap_nil, List.append_nil]
  | cons action rest ih =>
      rw [Channel.performGroup, Outcome.andThen_log, actsIn_append, ← List.append_assoc]
      exact ih (recalls.performAsPeer action)

theorem actsIn_await (channel : Channel α) (group : List (Action α)) :
    actsIn (channel.await group).log = actsIn (channel.performGroup group).log := by
  have resumed : actsIn (channel.await group).log =
      actsIn ((channel.performGroup group).log ++
        [.resumed .receiver (channel.performGroup group).state.ready]) := rfl
  rw [resumed, actsIn_append]
  exact List.append_nil _

theorem Recalls.await (recalls : channel.Recalls past) (group : List (Action α)) :
    (channel.await group).state.Recalls (past ++ actsIn (channel.await group).log) := by
  rw [actsIn_await]
  exact recalls.performGroup group

/-- Waits once for every group. -/
def awaitEach (channel : Channel α) : List (List (Action α)) → Blocking α Unit
  | [] => ⟨(), channel, []⟩
  | group :: rest => (channel.await group).andThen fun _ channel => channel.awaitEach rest

/-- What is known when a receiver has waited for some groups. -/
def pastAfter (past : History α) (channel : Channel α) (waited : List (List (Action α))) :
    History α :=
  past ++ actsIn (channel.awaitEach waited).log

@[simp] theorem pastAfter_nil (past : History α) (channel : Channel α) :
    pastAfter past channel [] = past :=
  List.append_nil past

theorem pastAfter_cons (past : History α) (channel : Channel α) (group : List (Action α))
    (waited : List (List (Action α))) :
    pastAfter past channel (group :: waited) =
      pastAfter (past ++ actsIn (channel.await group).log) (channel.await group).state waited := by
  rw [pastAfter, pastAfter, awaitEach, Outcome.andThen_log, actsIn_append, List.append_assoc]

theorem Recalls.awaitEach (recalls : channel.Recalls past) (waited : List (List (Action α))) :
    (channel.awaitEach waited).state.Recalls (pastAfter past channel waited) := by
  induction waited generalizing channel past with
  | nil => rwa [pastAfter_nil]
  | cons group rest ih =>
      rw [pastAfter_cons]
      exact ih (recalls.await group)

/-- A receiver waits as long as there is something to wait for, and no longer, and then takes
what there is.  When the script has ended the sender is dropped. -/
structure WaitsFor (channel : Channel α) (past : History α) (script : List (List (Action α)))
    (waited : List (List (Action α))) : Prop where
  groups : waited <+: script ++ [[.dropSender]]
  pending : ∀ shorter, shorter <+: waited → shorter ≠ waited →
    Pending (pastAfter past channel shorter)
  decided : ¬Pending (pastAfter past channel waited)
  ends : channel.receive script =
    (channel.awaitEach waited).andThen fun _ channel => channel.receiveLast

theorem Recalls.empty_iff (recalls : channel.Recalls past) (alive : channel.receiverAlive = true) :
    channel.tryReceive.result = .error .empty ↔ Pending past := by
  rw [recalls.tryReceive_result alive]
  exact recalls.lawful.verdicts.empty

theorem Recalls.waitsFor_nothing (recalls : channel.Recalls past)
    (alive : channel.receiverAlive = true) (decided : ¬Pending past)
    (script : List (List (Action α))) : channel.WaitsFor past script [] where
  groups := List.nil_prefix
  pending shorter isShorter differs := absurd (List.prefix_nil.mp isShorter) differs
  decided := by rwa [pastAfter_nil]
  ends := receive_of_decided (mt (recalls.empty_iff alive).mp decided) script

theorem WaitsFor.cons {waited : List (List (Action α))}
    (empty : channel.tryReceive.result = .error .empty) (pending : Pending past)
    (next : (channel.await group).state.WaitsFor (past ++ actsIn (channel.await group).log)
      script waited) :
    channel.WaitsFor past (group :: script) (group :: waited) where
  groups := List.cons_prefix_cons.mpr ⟨rfl, next.groups⟩
  pending shorter isShorter differs := by
    obtain rfl | ⟨rest, rfl, isRest⟩ := List.prefix_cons_iff.mp isShorter
    · rwa [pastAfter_nil]
    · rw [pastAfter_cons]
      exact next.pending rest isRest fun same => differs (same ▸ rfl)
  decided := by
    rw [pastAfter_cons]
    exact next.decided
  ends := by
    rw [receive_of_empty_cons empty, Outcome.andThen, next.ends]
    simp [Outcome.andThen, Channel.awaitEach]

/-- When the sender is dropped there is nothing left to wait for. -/
theorem Recalls.dropSender_decides (recalls : channel.Recalls past) (pending : Pending past) :
    ¬Pending (past ++ actsIn (channel.await [.dropSender]).log) := by
  have left : actsIn (channel.await [.dropSender]).log = [(.dropSender, .done)] := by
    have answer := recalls.answer .dropSender
    rw [expected, pending.2] at answer
    rw [actsIn_await]
    simp [Channel.performGroup, Channel.performAsPeer, permits, actsIn_append, actsIn_events,
      answer]
    rfl
  rw [left, Pending, senderLeft_append]
  simp [senderLeft]

theorem Recalls.exists_waitsFor (recalls : channel.Recalls past)
    (alive : channel.receiverAlive = true) (script : List (List (Action α))) :
    ∃ waited, channel.WaitsFor past script waited := by
  induction script generalizing channel past with
  | nil =>
      by_cases pending : Pending past
      · have empty := (recalls.empty_iff alive).mpr pending
        refine ⟨[[.dropSender]], List.prefix_rfl, fun shorter isShorter differs => ?_, ?_, ?_⟩
        · obtain rfl | ⟨rest, rfl, isRest⟩ := List.prefix_cons_iff.mp isShorter
          · rwa [pastAfter_nil]
          · exact absurd (congrArg _ (List.prefix_nil.mp isRest)) differs
        · rw [pastAfter_cons, pastAfter_nil]
          exact recalls.dropSender_decides pending
        · rw [receive_of_empty_nil empty]
          simp [Outcome.andThen, Channel.awaitEach]
      · exact ⟨[], recalls.waitsFor_nothing alive pending []⟩
  | cons group rest ih =>
      by_cases pending : Pending past
      · obtain ⟨waited, next⟩ :=
          ih (recalls.await group) ((channel.await_receiverAlive group).trans alive)
        exact ⟨group :: waited, next.cons ((recalls.empty_iff alive).mpr pending) pending⟩
      · exact ⟨[], recalls.waitsFor_nothing alive pending (group :: rest)⟩

/-! What is remembered of a run. -/

end Channel

def Reply.answer : Reply α → Answer α
  | .plain answer => answer
  | .received (.ok value) => .received value
  | .received (.error error) => .notReceived error.toTryReceiveError

/-- A call that receives in the end attempts it, whatever the peer did before. -/
def Call.attempt : Call α → Action α
  | .act action => action
  | .receive _ => .tryReceive

/-- What was done in a turn: what the peer did, and then the attempt that ended the call. -/
def Turn.history (turn : Turn α) : History α :=
  actsIn turn.log ++ [(turn.call.attempt, turn.reply.answer)]

def historyOf (turns : List (Turn α)) : History α :=
  turns.flatMap Turn.history

namespace Channel

variable {channel : Channel α}

theorem awaitEach_receiverAlive (channel : Channel α) (waited : List (List (Action α))) :
    (channel.awaitEach waited).state.receiverAlive = channel.receiverAlive := by
  induction waited generalizing channel with
  | nil => rfl
  | cons group rest ih =>
      rw [awaitEach, Outcome.andThen_state, ih]
      exact channel.await_receiverAlive group

/-- The last attempt is an attempt like any other. -/
theorem receiveLast_eq (alive : channel.receiverAlive = true)
    (decided : channel.tryReceive.result ≠ .error .empty) :
    channel.receiveLast.log = [] ∧
      channel.receiveLast.state = (channel.perform .tryReceive).state ∧
      (Reply.received channel.receiveLast.result).answer =
        (channel.perform .tryReceive).result := by
  rw [perform, ifReceiver, if_pos alive]
  refine ⟨congrArg (List.map _) channel.tryReceive_tells.1, rfl, ?_⟩
  rw [receiveLast, asEntries, Outcome.mapLog_result, Outcome.mapResult_result,
    Outcome.mapResult_result]
  cases tried : channel.tryReceive.result with
  | ok value => rfl
  | error error =>
      cases error with
      | empty => exact absurd tried decided
      | received => rfl
      | closed => rfl

theorem WaitsFor.recalls {waited : List (List (Action α))} {script : List (List (Action α))}
    (recalls : channel.Recalls past) (alive : channel.receiverAlive = true)
    (waits : channel.WaitsFor past script waited) :
    (channel.receive script).state.Recalls
        (past ++ actsIn (channel.receive script).log ++
          [(.tryReceive, (Reply.received (channel.receive script).result).answer)]) ∧
      (Reply.received (channel.receive script).result).answer =
        .ofVerdict (verdict (pastAfter past channel waited)) := by
  have ended := recalls.awaitEach waited
  have still := (channel.awaitEach_receiverAlive waited).trans alive
  have decided := mt (ended.empty_iff still).mp waits.decided
  obtain ⟨log, state, answer⟩ := receiveLast_eq still decided
  rw [waits.ends, Outcome.andThen_log, Outcome.andThen_state, Outcome.andThen_result, log,
    List.append_nil, state, answer]
  refine ⟨ended.perform .tryReceive, ?_⟩
  rw [ended.answer, expected]
  have stays : receiverLeft (pastAfter past channel waited) = false := by
    simpa [still] using ended.receiverAlive
  rw [stays]
  rfl

theorem Recalls.call (recalls : channel.Recalls past) (call : Call α) :
    (channel.call call).state.Recalls
      (past ++ (actsIn (channel.call call).log ++
        [(call.attempt, (channel.call call).result.answer)])) := by
  cases call with
  | act action =>
      rw [Channel.call, asEntries, Outcome.mapLog_log, actsIn_events]
      exact recalls.perform action
  | receive script =>
      rw [Channel.call]
      cases alive : channel.receiverAlive with
      | true =>
          obtain ⟨waited, waits⟩ := recalls.exists_waitsFor alive script
          rw [← List.append_assoc]
          exact (waits.recalls recalls alive).1
      | false =>
          have gone := recalls.perform .tryReceive
          rwa [Channel.perform, ifReceiver, alive] at gone

theorem Recalls.after (recalls : channel.Recalls past) (calls : List (Call α)) :
    (channel.after calls).Recalls (past ++ historyOf (channel.turns calls)) := by
  induction calls generalizing channel past with
  | nil => rwa [turns, historyOf, List.flatMap_nil, List.append_nil]
  | cons call rest ih =>
      rw [turns, historyOf, List.flatMap_cons, ← List.append_assoc]
      exact ih (recalls.call call)

/-- How a blocking call is answered, given what happened before it. -/
structure Receives (channel : Channel α) (past : History α) (script : List (List (Action α))) :
    Prop where
  gone : receiverLeft past = true → channel.call (.receive script) = ⟨.plain .gone, channel, []⟩
  waits : receiverLeft past = false → ∃ waited, channel.WaitsFor past script waited ∧
    ∃ result, (channel.call (.receive script)).result = .received result ∧
      (Reply.received result).answer = .ofVerdict (verdict (pastAfter past channel waited))

theorem Recalls.receives (recalls : channel.Recalls past) (script : List (List (Action α))) :
    channel.Receives past script := by
  have stays := recalls.receiverAlive
  constructor
  · intro left
    rw [left] at stays
    rw [Channel.call, stays]
    rfl
  · intro remains
    rw [remains] at stays
    obtain ⟨waited, waits⟩ := recalls.exists_waitsFor stays script
    refine ⟨waited, waits, (channel.receive script).result, ?_,
      (waits.recalls recalls stays).2⟩
    rw [Channel.call, stays]
    rfl

end Channel

/-- Whatever is asked of a one-shot channel, and whoever asks it while a receiver waits, the
first value is delivered at most once, and everything is answered accordingly. -/
theorem first_value_delivered_once (calls : List (Call α)) :
    let history := historyOf (({} : Channel α).turns calls)
    Delivers history ∧ ∀ script, (({} : Channel α).after calls).Receives history script := by
  intro history
  have recalls : (({} : Channel α).after calls).Recalls history := Channel.recalls_new.after calls
  exact ⟨recalls.lawful.delivers, recalls.receives⟩

end Handoff.OneShot
