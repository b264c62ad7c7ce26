import Handoff.Proofs.Handle.Ownership
import Handoff.Proofs.OneShot.Chronicle
import Mathlib.Logic.Relation

namespace Handoff.OneShot

open Handoff.Handle (destroyedIn destroyedIn_append)
open Handoff.Ring (noticesIn noticesIn_append mem_noticesIn)

/-! Who has the value.  At every point of a run the shared word, the memories of the two ends
and the slot say the same, and the word only moves on.  So the value that was sent is received,
or else it is destroyed by the end that leaves last.
-/

/-- How the stage can change. -/
inductive Stage.Moves : Stage → Stage → Prop where
  | sends : Moves .unsent .sent
  | receives : Moves .sent .received
  | disconnects : Moves .unsent .disconnected

namespace Channel

variable {channel : Channel α} {past : History α}

theorem Coherent.stage_of_unsent (coherent : channel.Coherent)
    (alive : channel.senderAlive = true) (unsent : channel.hasSent = false) :
    channel.stage = .unsent := by
  have never : ¬(channel.stage = .sent ∨ channel.stage = .received) := by
    rw [← coherent.hasSent, unsent]
    exact Bool.false_ne_true
  have stays : channel.stage ≠ .disconnected := fun left => by
    rw [(coherent.left.mp left).1] at alive
    cases alive
  cases stage : channel.stage with
  | unsent => rfl
  | sent => exact absurd (.inl stage) never
  | received => exact absurd (.inr stage) never
  | disconnected => exact absurd stage stays

theorem Coherent.send_moves (coherent : channel.Coherent) (alive : channel.senderAlive = true)
    (value : α) : (channel.send value).state.stage = channel.stage ∨
      Stage.Moves channel.stage (channel.send value).state.stage := by
  cases sent : channel.hasSent with
  | true =>
      rw [send_of_sent sent]
      exact .inl rfl
  | false =>
      rw [coherent.send_of_unsent (by simp [present, alive]) sent,
        coherent.stage_of_unsent alive sent]
      exact .inr .sends

theorem Coherent.tryReceive_moves (coherent : channel.Coherent) (there : channel.present = true) :
    channel.tryReceive.state.stage = channel.stage ∨
      Stage.Moves channel.stage channel.tryReceive.state.stage := by
  obtain ⟨-, tried⟩ | ⟨-, tried⟩ | ⟨-, tried⟩ | ⟨value, stage, -, tried⟩ :=
    coherent.tryReceive_cases there
  · exact .inl (by rw [tried])
  · exact .inl (by rw [tried])
  · exact .inl (by rw [tried])
  · rw [tried, stage]
    exact .inr .receives

theorem Coherent.dropSender_moves (coherent : channel.Coherent)
    (alive : channel.senderAlive = true) :
    channel.dropSender.state.stage = channel.stage ∨
      Stage.Moves channel.stage channel.dropSender.state.stage := by
  rw [Channel.dropSender, Outcome.andThen_state, freeIfAbandoned_stage, disconnect]
  split
  · exact .inl rfl
  · next unsent =>
      rw [coherent.stage_of_unsent alive (by simpa using unsent)]
      exact .inr .disconnects

theorem Coherent.moves (coherent : channel.Coherent) (action : Action α) :
    (channel.perform action).state.stage = channel.stage ∨
      Stage.Moves channel.stage (channel.perform action).state.stage := by
  cases action with
  | send value =>
      rw [Channel.perform, ifSender]
      split
      · next alive => exact coherent.send_moves alive value
      · exact .inl rfl
  | tryReceive =>
      rw [Channel.perform, ifReceiver]
      split
      · next alive => exact coherent.tryReceive_moves (by simp [present, alive])
      · exact .inl rfl
  | receiveInto register =>
      rw [Channel.perform, ifReceiver]
      split
      · next alive =>
          rw [Outcome.mapResult_state, receiveInto_state]
          exact coherent.tryReceive_moves (by simp [present, alive])
      · exact .inl rfl
  | dropSender =>
      rw [Channel.perform, ifSender]
      split
      · next alive => exact coherent.dropSender_moves alive
      · exact .inl rfl
  | dropReceiver =>
      rw [Channel.perform, ifReceiver]
      split
      · exact .inl (freeIfAbandoned_stage _)
      · exact .inl rfl
  | describe => exact .inl rfl
  | unknown => exact .inl rfl

theorem Coherent.moves_after (coherent : channel.Coherent) (calls : List (Call α)) :
    Relation.ReflTransGen Stage.Moves channel.stage (channel.after calls).stage := by
  let keeps (reached : Channel α) : Prop :=
    reached.Coherent ∧ Relation.ReflTransGen Stage.Moves channel.stage reached.stage
  suffices kept : keeps (channel.after calls) from kept.2
  refine after_kept (fun reached action kept => ⟨kept.1.perform action, ?_⟩) ⟨coherent, .refl⟩ calls
  obtain same | moves := kept.1.moves action
  · rw [same]
    exact kept.2
  · exact kept.2.tail moves

/-- What holds at a point of a run with this past. -/
structure Intact (channel : Channel α) (past : History α) : Prop where
  filled : channel.present = true → (channel.slot.isSome = true ↔ channel.stage = .sent)
  sound : channel.faulty = false
  hasSent : channel.senderAlive = true →
    (channel.hasSent = true ↔ channel.stage = .sent ∨ channel.stage = .received)
  hasReceived : channel.receiverAlive = true →
    (channel.hasReceived = true ↔ channel.stage = .received)
  disconnected : channel.stage = .disconnected ↔ senderLeft past = true ∧ acceptedIn past = []
  moves : ∀ action, (channel.perform action).state.stage = channel.stage ∨
    Stage.Moves channel.stage (channel.perform action).state.stage
  onwards : ∀ calls,
    Relation.ReflTransGen Stage.Moves channel.stage (channel.after calls).stage

theorem Recalls.intact (recalls : channel.Recalls past) : channel.Intact past where
  filled := recalls.coherent.filled
  sound := recalls.coherent.sound
  hasSent _ := recalls.coherent.hasSent
  hasReceived _ := recalls.coherent.hasReceived
  disconnected := by
    rw [recalls.coherent.left, recalls.senderAlive, recalls.hasSent, recalls.lawful.accepted_eq]
    cases offeredIn past <;> simp
  moves := recalls.coherent.moves
  onwards := recalls.coherent.moves_after

end Channel

/-! What becomes of the value. -/

def bothLeft (past : History α) : Bool :=
  senderLeft past && receiverLeft past

/-- The end that was still there has left. -/
def closes (past : History α) (act : Action α × Answer α) : Bool :=
  !bothLeft past && bothLeft (past ++ [act])

/-- The values that the channel itself destroyed.  What is destroyed last by receiving into a
register is what the register held before. -/
def Deed.freed (deed : Deed α) : List α :=
  match deed.act with
  | (.receiveInto _, .register .success _) => destroyedIn deed.log.dropLast
  | _ => destroyedIn deed.log

variable {past : History α} {deeds : List (Deed α)}

theorem bothLeft_concat (past : History α) (act : Action α × Answer α) :
    bothLeft (past ++ [act]) =
      ((senderLeft past || senderLeft [act]) && (receiverLeft past || receiverLeft [act])) := by
  rw [bothLeft, senderLeft_append, receiverLeft_append]

theorem verdict_toOption (past : History α) :
    (verdict past).toOption =
      if (receivedIn past).isEmpty then (offeredIn past).head? else none := by
  rw [verdict]
  cases receivedIn past with
  | nil => cases offeredIn past <;> rfl
  | cons => rfl

theorem destroyedIn_unread (past : History α) :
    destroyedIn (unread past) = (verdict past).toOption.toList := by
  rw [unread]
  cases verdict past <;> rfl

theorem noticesIn_unread (past : History α) :
    noticesIn (unread past) = (verdict past).toOption.toList.map fun _ => .valueUnreceived := by
  rw [unread]
  cases verdict past <;> rfl

theorem closes_of_stays {act : Action α × Answer α} (sender : senderLeft [act] = false)
    (receiver : receiverLeft [act] = false) : closes past act = false := by
  rw [closes, bothLeft_concat, sender, receiver, Bool.or_false, Bool.or_false, ← bothLeft,
    Bool.not_and_self]

theorem closes_dropSender (there : senderLeft past = false) :
    closes past (.dropSender, .done) = receiverLeft past := by
  rw [closes, bothLeft_concat, bothLeft, there]
  exact Bool.or_false _

theorem closes_dropReceiver (there : receiverLeft past = false) :
    closes past (.dropReceiver, .done) = senderLeft past := by
  rw [closes, bothLeft_concat, bothLeft, there, Bool.and_false]
  cases senderLeft past <;> rfl

/-- What a deed does about the value: nothing, unless an end leaves with it.  An end that has
left does nothing any more. -/
inductive Disposes (past : History α) : Deed α → Prop where
  | stays {deed : Deed α} (sender : senderLeft [deed.act] = false)
      (receiver : receiverLeft [deed.act] = false)
      (offers : senderLeft past = true → offeredIn [deed.act] = [])
      (receives : receiverLeft past = true → receivedIn [deed.act] = [])
      (freed : deed.freed = []) (notices : noticesIn deed.log = []) : Disposes past deed
  | dropSender (there : senderLeft past = false) :
      Disposes past ⟨(.dropSender, .done),
        (if (offeredIn past).isEmpty then [.notified .receiver, .noted .senderLeftUnsent] else [])
          ++ if receiverLeft past then unread past else []⟩
  | dropReceiver (there : receiverLeft past = false) :
      Disposes past ⟨(.dropReceiver, .done), if senderLeft past then unread past else []⟩

theorem disposes_refused (past : History α) : Disposes past Deed.refused :=
  .stays rfl rfl (fun _ => rfl) (fun _ => rfl) rfl rfl

theorem disposes_due (past : History α) (action : Action α) :
    Disposes past (Deed.due past action) := by
  cases action with
  | send value =>
      refine .stays rfl rfl (fun left => ?_) (fun _ => ?_) ?_ ?_
      · rw [Deed.due, expected, left]
        rfl
      · rw [Deed.due, expected]
        cases senderLeft past <;> cases (offeredIn past).isEmpty <;> rfl
      · refine (?_ : destroyedIn (expectedEvents past (.send value)) = [])
        rw [expectedEvents]
        split <;> rfl
      · rw [Deed.due, expectedEvents]
        split <;> rfl
  | tryReceive =>
      refine .stays rfl rfl (fun _ => rfl) (fun left => ?_) rfl rfl
      rw [Deed.due, expected, left]
      rfl
  | receiveInto register =>
      refine .stays rfl rfl (fun _ => rfl) (fun left => ?_) ?_ ?_
      · rw [Deed.due, expected, left]
        rfl
      · rw [Deed.freed, Deed.due, expected, expectedEvents]
        cases receiverLeft past with
        | true => rfl
        | false =>
            cases verdict past with
            | ok value => rfl
            | error error => cases error <;> rfl
      · rw [Deed.due, expectedEvents]
        split <;> rfl
  | dropSender =>
      rw [Deed.due, expected, expectedEvents]
      cases there : senderLeft past with
      | true => exact .stays rfl rfl (fun _ => rfl) (fun _ => rfl) rfl rfl
      | false => exact .dropSender there
  | dropReceiver =>
      rw [Deed.due, expected, expectedEvents]
      cases there : receiverLeft past with
      | true =>
          rw [Bool.not_true, Bool.and_false]
          exact .stays rfl rfl (fun _ => rfl) (fun _ => rfl) rfl rfl
      | false =>
          rw [Bool.not_false, Bool.and_true]
          exact .dropReceiver there
  | describe => exact .stays rfl rfl (fun _ => rfl) (fun _ => rfl) rfl rfl
  | unknown => exact .stays rfl rfl (fun _ => rfl) (fun _ => rfl) rfl rfl

theorem Recorded.disposes {before after : List (Deed α)} {deed : Deed α}
    (recorded : Recorded deeds) (split : deeds = before ++ deed :: after) :
    Recorded before ∧ Disposes (historyIn before) deed := by
  obtain ⟨earlier, rfl | ⟨action, rfl⟩⟩ := recorded.due_or_refused split
  · exact ⟨earlier, disposes_refused _⟩
  · exact ⟨earlier, disposes_due _ action⟩

namespace Disposes

variable {deed : Deed α}

/-- The channel destroys a value when the second end leaves, and then the one that nobody
received. -/
theorem freed_eq (disposes : Disposes past deed) :
    deed.freed = if closes past deed.act then (verdict past).toOption.toList else [] := by
  cases disposes with
  | stays sender receiver _ _ freed _ =>
      rw [freed, closes_of_stays sender receiver]
      rfl
  | dropSender there =>
      have silent : destroyedIn (if (offeredIn past).isEmpty then
          [(.notified .receiver : Event α), .noted .senderLeftUnsent] else []) = [] := by
        split <;> rfl
      rw [closes_dropSender there, ← destroyedIn_unread]
      refine (destroyedIn_append _ _).trans ?_
      rw [silent, List.nil_append]
      cases receiverLeft past <;> rfl
  | dropReceiver there =>
      rw [closes_dropReceiver there, ← destroyedIn_unread]
      refine (?_ : destroyedIn (if senderLeft past then unread past else []) = _)
      cases senderLeft past <;> rfl

theorem noticesIn_eq (disposes : Disposes past deed) :
    noticesIn deed.log =
      (if senderLeft [deed.act] && (offeredIn past).isEmpty then [.senderLeftUnsent] else []) ++
        (if closes past deed.act then (verdict past).toOption.toList else []).map
          fun _ => .valueUnreceived := by
  cases disposes with
  | stays sender receiver _ _ _ notices =>
      rw [notices, closes_of_stays sender receiver, sender]
      rfl
  | dropSender there =>
      rw [closes_dropSender there, noticesIn_append]
      congr 1
      · cases (offeredIn past).isEmpty <;> rfl
      · cases receiverLeft past with
        | true => exact noticesIn_unread past
        | false => rfl
  | dropReceiver there =>
      rw [closes_dropReceiver there]
      cases senderLeft past with
      | true => exact noticesIn_unread past
      | false => rfl

theorem late (disposes : Disposes past deed) (left : senderLeft (past ++ [deed.act]) = true) :
    offeredIn [deed.act] = [] := by
  cases disposes with
  | stays sender _ offers _ _ _ =>
      rw [senderLeft_append, sender, Bool.or_false] at left
      exact offers left
  | dropSender => rfl
  | dropReceiver => rfl

theorem idle (disposes : Disposes past deed) (left : bothLeft (past ++ [deed.act]) = true) :
    offeredIn [deed.act] = [] ∧ receivedIn [deed.act] = [] := by
  obtain ⟨senderGone, receiverGone⟩ := Bool.and_eq_true_iff.mp left
  refine ⟨disposes.late senderGone, ?_⟩
  cases disposes with
  | stays _ receiver _ receives _ _ =>
      rw [receiverLeft_append, receiver, Bool.or_false] at receiverGone
      exact receives receiverGone
  | dropSender => rfl
  | dropReceiver => rfl

theorem leaves_once (disposes : Disposes past deed) (left : senderLeft past = true) :
    senderLeft [deed.act] = false := by
  cases disposes with
  | stays sender => exact sender
  | dropSender there => rw [there] at left; cases left
  | dropReceiver => rfl

end Disposes

/-! What a run leaves behind. -/

/-- The value that nobody had received when the second end left. -/
def leftBehind (past : History α) : Option α :=
  if bothLeft past then (verdict past).toOption else none

/-- Whether nothing can be sent any more, although nothing was. -/
def leftUnsent (past : History α) : Bool :=
  senderLeft past && (offeredIn past).isEmpty

theorem leftBehind_concat {act : Action α × Answer α}
    (idle : bothLeft (past ++ [act]) = true → offeredIn [act] = [] ∧ receivedIn [act] = []) :
    (leftBehind (past ++ [act])).toList =
      (leftBehind past).toList ++
        if closes past act then (verdict past).toOption.toList else [] := by
  have still : bothLeft past = true → bothLeft (past ++ [act]) = true := fun left => by
    obtain ⟨sender, receiver⟩ := Bool.and_eq_true_iff.mp left
    rw [bothLeft_concat, sender, receiver]
    rfl
  have same (left : bothLeft (past ++ [act]) = true) :
      (verdict (past ++ [act])).toOption = (verdict past).toOption := by
    obtain ⟨offers, receives⟩ := idle left
    rw [verdict_toOption, verdict_toOption, offeredIn_append, receivedIn_append, offers, receives,
      List.append_nil, List.append_nil]
  rw [leftBehind, leftBehind, closes]
  cases before : bothLeft past with
  | true =>
      have left := still before
      simp [left, same left]
  | false =>
      cases left : bothLeft (past ++ [act]) with
      | true => simp [same left]
      | false => rfl

theorem leftUnsent_concat {act : Action α × Answer α}
    (late : senderLeft (past ++ [act]) = true → offeredIn [act] = []) :
    leftUnsent (past ++ [act]) =
      (leftUnsent past || senderLeft [act] && (offeredIn past).isEmpty) := by
  rw [leftUnsent, leftUnsent, ← Bool.and_or_distrib_right]
  cases left : senderLeft (past ++ [act]) with
  | true =>
      rw [offeredIn_append, late left, List.append_nil, ← left, senderLeft_append]
  | false =>
      rw [← senderLeft_append, left]
      rfl

theorem Disposes.freed_step {deed : Deed α} (disposes : Disposes (historyIn deeds) deed)
    (freed : deeds.flatMap Deed.freed = (leftBehind (historyIn deeds)).toList) :
    (deeds ++ [deed]).flatMap Deed.freed = (leftBehind (historyIn (deeds ++ [deed]))).toList := by
  rw [List.flatMap_append, List.flatMap_singleton, freed, disposes.freed_eq, historyIn_concat,
    leftBehind_concat disposes.idle]

theorem Recorded.freed_eq (recorded : Recorded deeds) :
    deeds.flatMap Deed.freed = (leftBehind (historyIn deeds)).toList := by
  induction recorded with
  | nil => rfl
  | snoc recorded action ih => exact (disposes_due _ action).freed_step ih
  | blocked recorded ih => exact (disposes_refused _).freed_step ih

/-- All that has been noted in a run. -/
def notesOf (past : History α) : List Notice :=
  (if leftUnsent past then [.senderLeftUnsent] else []) ++
    (leftBehind past).toList.map fun _ => .valueUnreceived

theorem Disposes.notices_step {deed : Deed α} (disposes : Disposes (historyIn deeds) deed)
    (notices : noticesIn (deeds.flatMap Deed.log) = notesOf (historyIn deeds)) :
    noticesIn ((deeds ++ [deed]).flatMap Deed.log) = notesOf (historyIn (deeds ++ [deed])) := by
  rw [List.flatMap_append, List.flatMap_singleton, noticesIn_append, notices,
    disposes.noticesIn_eq, historyIn_concat, notesOf, notesOf, leftBehind_concat disposes.idle,
    leftUnsent_concat disposes.late]
  cases left : senderLeft (historyIn deeds) with
  | true => simp [disposes.leaves_once left]
  | false => simp [leftUnsent, leftBehind, bothLeft, left]

theorem Recorded.noticesIn_eq (recorded : Recorded deeds) :
    noticesIn (deeds.flatMap Deed.log) = notesOf (historyIn deeds) := by
  induction recorded with
  | nil => rfl
  | snoc recorded action ih => exact (disposes_due _ action).notices_step ih
  | blocked recorded ih => exact (disposes_refused _).notices_step ih

/-! Where in a run it happens. -/

theorem Disposes.log_of_freed {deed : Deed α} (disposes : Disposes past deed)
    (frees : deed.freed ≠ []) :
    closes past deed.act = true ∧ ∃ value,
      deed.freed = [value] ∧ deed.log = [.destroyed value, .noted .valueUnreceived] := by
  have freed := disposes.freed_eq
  cases closing : closes past deed.act with
  | false =>
      rw [closing] at freed
      exact absurd freed frees
  | true =>
      rw [closing, if_pos rfl] at freed
      cases decided : verdict past with
      | error error =>
          rw [decided] at freed
          exact absurd freed frees
      | ok value =>
          have gone : unread past = [.destroyed value, .noted .valueUnreceived] := by
            rw [unread, decided]
          rw [decided] at freed
          refine ⟨rfl, value, freed, ?_⟩
          cases disposes with
          | stays sender receiver =>
              rw [closes_of_stays sender receiver] at closing
              cases closing
          | dropSender there =>
              obtain ⟨rest, offered⟩ := List.head?_eq_some_iff.mp (verdict_eq_ok.mp decided).2
              rw [closes_dropSender there] at closing
              rw [closing, offered]
              exact gone
          | dropReceiver there =>
              rw [closes_dropReceiver there] at closing
              rw [closing]
              exact gone

theorem senderLeft_singleton {act : Action α × Answer α} :
    senderLeft [act] = true ↔ act = (.dropSender, .done) := by
  obtain ⟨action, answer⟩ := act
  cases action with
  | dropSender => cases answer <;> simp [senderLeft]
  | _ => simp [senderLeft]

theorem Disposes.notes_unsent {deed : Deed α} (disposes : Disposes past deed) :
    .noted .senderLeftUnsent ∈ deed.log ↔
      deed.act = (.dropSender, .done) ∧ offeredIn past = [] := by
  rw [← mem_noticesIn, disposes.noticesIn_eq, ← senderLeft_singleton, ← List.isEmpty_iff,
    ← Bool.and_eq_true]
  cases senderLeft [deed.act] && (offeredIn past).isEmpty <;> simp

theorem Lawful.accepted_eq_nil (lawful : Lawful past) :
    acceptedIn past = [] ↔ offeredIn past = [] := by
  rw [lawful.accepted_eq]
  cases offeredIn past <;> simp

/-- When both ends are gone, what was accepted was received or was left behind. -/
theorem Lawful.accepted_split (lawful : Lawful past) (left : bothLeft past = true) :
    acceptedIn past = receivedIn past ++ (leftBehind past).toList := by
  rw [leftBehind, if_pos left, verdict_toOption, lawful.accepted_eq]
  have first := lawful.received_prefix
  cases received : receivedIn past with
  | nil => cases offeredIn past <;> rfl
  | cons value rest =>
      rw [received] at first
      obtain ⟨more, offered⟩ := first
      have few := congrArg List.length offered
      rw [List.length_append, List.length_cons, List.length_take] at few
      have none : more = [] := List.length_eq_zero_iff.mp (by omega)
      rw [← offered, none]
      rfl

/-- What the deeds of a run say about the value. -/
structure Accounted (deeds : List (Deed α)) : Prop where
  recorded : Recorded deeds
  once : (acceptedIn (historyIn deeds)).length ≤ 1
  settled : bothLeft (historyIn deeds) = true →
    acceptedIn (historyIn deeds) = receivedIn (historyIn deeds) ++ deeds.flatMap Deed.freed
  freed : ∀ before deed after, deeds = before ++ deed :: after → deed.freed ≠ [] →
    closes (historyIn before) deed.act = true ∧ ∃ value,
      deed.freed = [value] ∧ deed.log = [.destroyed value, .noted .valueUnreceived]
  unsent : ∀ before deed after, deeds = before ++ deed :: after →
    (.noted .senderLeftUnsent ∈ deed.log ↔
      deed.act = (.dropSender, .done) ∧ acceptedIn (historyIn before) = [])
  notices : bothLeft (historyIn deeds) = true →
    noticesIn (deeds.flatMap Deed.log) =
      if (acceptedIn (historyIn deeds)).isEmpty then [.senderLeftUnsent]
      else if (receivedIn (historyIn deeds)).isEmpty then [.valueUnreceived] else []

theorem Recorded.accounted (recorded : Recorded deeds) : Accounted deeds where
  recorded := recorded
  once := by
    rw [recorded.lawful.accepted_eq]
    exact List.length_take_le 1 _
  settled left := by
    rw [recorded.freed_eq]
    exact recorded.lawful.accepted_split left
  freed before deed after split := (recorded.disposes split).2.log_of_freed
  unsent before deed after split := by
    obtain ⟨earlier, disposes⟩ := recorded.disposes split
    rw [disposes.notes_unsent, earlier.lawful.accepted_eq_nil]
  notices left := by
    have sender := (Bool.and_eq_true_iff.mp left).1
    rw [recorded.noticesIn_eq, notesOf, leftUnsent, sender, leftBehind, if_pos left,
      verdict_toOption, recorded.lawful.accepted_eq]
    cases offered : offeredIn (historyIn deeds) with
    | nil => cases receivedIn (historyIn deeds) <;> rfl
    | cons => cases receivedIn (historyIn deeds) <;> rfl

/-- What holds of a run, with all its deeds, that led to this channel.  `intact` speaks of every
point after it, also within a call of the receiver that waits and lets the peer act. -/
structure Custody (turns : List (Turn α)) (deeds : List (Deed α)) (reached : Channel α) :
    Prop where
  history : historyIn deeds = historyOf turns
  events : deeds.flatMap Deed.log = turns.flatMap fun turn => eventsIn turn.log
  left : bothLeft (historyIn deeds) = !reached.present
  accounted : Accounted deeds
  intact : ∀ waited group,
    let acted := (reached.awaitEach waited).state.performGroup group
    acted.state.Intact (reached.pastAfter (historyOf turns) waited ++ actsIn acted.log)

/-- In every run the parts of a channel agree at every point, and the value is received or is
destroyed with the channel. -/
theorem value_received_or_destroyed (calls : List (Call α)) :
    let turns := ({} : Channel α).turns calls
    Custody turns (Chronicle.ofTurns turns).deeds (({} : Channel α).after calls) := by
  intro turns
  obtain ⟨recalls, recorded, clear⟩ :
      (({} : Channel α).after calls).Chronicled (Chronicle.ofTurns turns) :=
    Channel.chronicled_new.after calls
  have history : historyIn (Chronicle.ofTurns turns).deeds = historyOf turns :=
    Chronicle.historyIn_readTurns {} turns
  have events : (Chronicle.ofTurns turns).events = turns.flatMap fun turn => eventsIn turn.log :=
    Chronicle.events_readTurns {} turns
  rw [Chronicle.events, clear, List.append_nil] at events
  refine ⟨history, events, ?_, recorded.accounted, fun waited group => ?_⟩
  · rw [Channel.present, recalls.senderAlive, recalls.receiverAlive, bothLeft, Bool.not_or,
      Bool.not_not, Bool.not_not]
  · rw [← history]
    exact ((recalls.awaitEach waited).performGroup group).intact

example :
    (Chronicle.ofTurns (({} : Channel Nat).turns
      [.act (.send 3), .act .dropReceiver, .act .dropSender])).deeds.flatMap Deed.freed = [3] :=
  rfl

end Handoff.OneShot
