import Handoff.Proofs.OneShot.Delivery

namespace Handoff.OneShot

/-! Which events come with which action.  Like the answers, they follow from the history.  An
action that arrives notifies, and the value that is on its way when the second end goes is
destroyed with that action.
-/

/-- What happens to a value that is still on its way when the channel goes. -/
def unread (past : History α) : List (Event α) :=
  match verdict past with
  | .ok value => [.destroyed value, .noted .valueUnreceived]
  | .error _ => []

/-- The events that an action has to come with. -/
def expectedEvents (past : History α) : Action α → List (Event α)
  | .send _ => if !senderLeft past && (offeredIn past).isEmpty then [.notified .receiver] else []
  | .receiveInto register =>
      match receiverLeft past, verdict past with
      | false, .ok _ => [.destroyed register]
      | _, _ => []
  | .dropSender =>
      if senderLeft past then []
      else
        (if (offeredIn past).isEmpty then [.notified .receiver, .noted .senderLeftUnsent] else [])
          ++ if receiverLeft past then unread past else []
  | .dropReceiver => if senderLeft past && !receiverLeft past then unread past else []
  | .tryReceive | .describe | .unknown _ => []

variable {past : History α}

theorem unread_of_unoffered (unoffered : (offeredIn past).isEmpty = true) : unread past = [] := by
  rw [List.isEmpty_iff] at unoffered
  rw [unread, verdict, unoffered]
  cases receivedIn past <;> rfl

namespace Channel

variable {channel other : Channel α}

theorem free_log_congr (stage : other.stage = channel.stage) (slot : other.slot = channel.slot) :
    other.free.log = channel.free.log := by
  rw [free, free, stage]
  cases channel.stage with
  | sent => simp only [take, slot]
  | _ => rfl

theorem Recalls.free_log (recalls : channel.Recalls past) (there : channel.present = true) :
    channel.free.log = unread past := by
  rw [unread, ← recalls.tryReceive_verdict there]
  obtain ⟨stage, tried⟩ | ⟨stage, tried⟩ | ⟨stage, tried⟩ | ⟨value, stage, slot, tried⟩ :=
    recalls.coherent.tryReceive_cases there
  · rw [free, stage, tried]
  · rw [free, stage, tried]
  · rw [free, stage, tried]
  · rw [free, stage, tried]
    simp only [take, slot]
    rfl

/-- What goes with the channel when an end has left that did not touch the value. -/
theorem Recalls.freeIfAbandoned_log (recalls : channel.Recalls past)
    (there : channel.present = true) (other : Channel α) (stage : other.stage = channel.stage)
    (slot : other.slot = channel.slot) :
    other.freeIfAbandoned.log = if other.present then [] else unread past := by
  rw [freeIfAbandoned, present]
  split
  · rfl
  · exact (free_log_congr stage slot).trans (recalls.free_log there)

theorem freeIfAbandoned_log_of_disconnected (disconnected : channel.stage = .disconnected) :
    channel.freeIfAbandoned.log = [] := by
  rw [freeIfAbandoned]
  split
  · rfl
  · rw [free, disconnected]

theorem Recalls.dropSender_log (recalls : channel.Recalls past)
    (alive : channel.senderAlive = true) :
    channel.dropSender.log =
      (if (offeredIn past).isEmpty then [.notified .receiver, .noted .senderLeftUnsent] else [])
        ++ if receiverLeft past then unread past else [] := by
  have there : channel.present = true := by simp [present, alive]
  have memory := recalls.hasSent
  rw [dropSender, Outcome.andThen_log, disconnect]
  cases unoffered : (offeredIn past).isEmpty with
  | true =>
      rw [unoffered] at memory
      rw [if_neg (by simp [memory]), if_pos rfl, unread_of_unoffered unoffered, ite_self]
      exact congrArg _ (freeIfAbandoned_log_of_disconnected rfl)
  | false =>
      rw [unoffered, Bool.not_false] at memory
      rw [if_pos memory, if_neg Bool.false_ne_true, List.nil_append]
      refine (recalls.freeIfAbandoned_log there { channel with senderAlive := false }
        rfl rfl).trans ?_
      rw [present, recalls.receiverAlive]
      cases receiverLeft past <;> rfl

theorem Recalls.dropReceiver_log (recalls : channel.Recalls past)
    (alive : channel.receiverAlive = true) :
    channel.dropReceiver.log = if senderLeft past then unread past else [] := by
  have there : channel.present = true := by simp [present, alive]
  refine (recalls.freeIfAbandoned_log there { channel with receiverAlive := false }
    rfl rfl).trans ?_
  rw [present, recalls.senderAlive]
  cases senderLeft past <;> rfl

theorem Recalls.events (recalls : channel.Recalls past) (action : Action α) :
    (channel.perform action).log = expectedEvents past action := by
  cases action with
  | send value =>
      rw [Channel.perform, ifSender, recalls.senderAlive, expectedEvents]
      cases senderLeft past with
      | true => rfl
      | false =>
          simp only [Bool.not_false, if_true, Channel.send, recalls.hasSent]
          cases (offeredIn past).isEmpty <;> rfl
  | tryReceive =>
      rw [Channel.perform, ifReceiver, expectedEvents]
      split
      · exact channel.tryReceive_tells.1
      · rfl
  | receiveInto register =>
      rw [Channel.perform, ifReceiver, expectedEvents]
      cases left : receiverLeft past with
      | true => simp [recalls.receiverAlive, left]
      | false =>
          have alive : channel.receiverAlive = true := by simp [recalls.receiverAlive, left]
          rw [if_pos alive, Outcome.mapResult_log, receiveInto, recalls.tryReceive_result alive]
          cases verdict past <;> simp [channel.tryReceive_tells.1]
  | dropSender =>
      rw [Channel.perform, ifSender, expectedEvents]
      cases left : senderLeft past with
      | true => simp [recalls.senderAlive, left]
      | false =>
          have alive : channel.senderAlive = true := by simp [recalls.senderAlive, left]
          rw [if_pos alive]
          exact recalls.dropSender_log alive
  | dropReceiver =>
      rw [Channel.perform, ifReceiver, expectedEvents]
      cases left : receiverLeft past with
      | true => simp [recalls.receiverAlive, left]
      | false =>
          have alive : channel.receiverAlive = true := by simp [recalls.receiverAlive, left]
          rw [if_pos alive, Outcome.mapResult_log, recalls.dropReceiver_log alive]
          cases senderLeft past <;> rfl
  | describe => rfl
  | unknown => rfl

end Channel

/-! What was done in a run, each action with the events that came with it. -/

structure Deed (α : Type u) where
  act : Action α × Answer α
  log : List (Event α)

/-- An action as it has to be answered, with the events that it has to come with. -/
def Deed.due (past : History α) (action : Action α) : Deed α :=
  ⟨(action, expected past action), expectedEvents past action⟩

/-- A receiver that is blocked cannot be dropped. -/
def Deed.refused : Deed α :=
  ⟨(.dropReceiver, .refused), []⟩

def historyIn (deeds : List (Deed α)) : History α :=
  deeds.map Deed.act

theorem historyIn_concat (deeds : List (Deed α)) (deed : Deed α) :
    historyIn (deeds ++ [deed]) = historyIn deeds ++ [deed.act] :=
  List.map_append

def eventsIn (log : List (ChannelEntry α)) : List (Event α) :=
  log.filterMap fun
    | .event event => some event
    | _ => none

/-- `pending` are the events of an action whose answer is not known yet. -/
structure Chronicle (α : Type u) where
  deeds : List (Deed α) := []
  pending : List (Event α) := []

namespace Chronicle

def close (chronicle : Chronicle α) (act : Action α × Answer α) : Chronicle α :=
  { deeds := chronicle.deeds ++ [⟨act, chronicle.pending⟩] }

def enter (chronicle : Chronicle α) : ChannelEntry α → Chronicle α
  | .event event => { chronicle with pending := chronicle.pending ++ [event] }
  | .acted action answer _ => chronicle.close (action, answer)
  | .waiting .. | .resumed .. => chronicle

def read (chronicle : Chronicle α) (entries : List (ChannelEntry α)) : Chronicle α :=
  entries.foldl enter chronicle

def readTurn (chronicle : Chronicle α) (turn : Turn α) : Chronicle α :=
  (chronicle.read turn.log).close (turn.call.attempt, turn.reply.answer)

def readTurns (chronicle : Chronicle α) (turns : List (Turn α)) : Chronicle α :=
  turns.foldl readTurn chronicle

/-- All that was done in a run. -/
def ofTurns (turns : List (Turn α)) : Chronicle α :=
  readTurns {} turns

/-- All events so far. -/
def events (chronicle : Chronicle α) : List (Event α) :=
  chronicle.deeds.flatMap Deed.log ++ chronicle.pending

theorem read_append (chronicle : Chronicle α) (first second : List (ChannelEntry α)) :
    chronicle.read (first ++ second) = (chronicle.read first).read second :=
  List.foldl_append

theorem read_events (chronicle : Chronicle α) (log : List (Event α)) :
    chronicle.read (log.map .event) = { chronicle with pending := chronicle.pending ++ log } := by
  induction log generalizing chronicle with
  | nil => simp [read]
  | cons event rest ih =>
      rw [read, List.map_cons, List.foldl_cons]
      refine (ih (chronicle.enter (.event event))).trans ?_
      simp [enter]

theorem historyIn_close (chronicle : Chronicle α) (act : Action α × Answer α) :
    historyIn (chronicle.close act).deeds = historyIn chronicle.deeds ++ [act] :=
  historyIn_concat chronicle.deeds _

theorem historyIn_read (chronicle : Chronicle α) (entries : List (ChannelEntry α)) :
    historyIn (chronicle.read entries).deeds = historyIn chronicle.deeds ++ actsIn entries := by
  induction entries generalizing chronicle with
  | nil => simp [read, actsIn]
  | cons entry rest ih =>
      rw [read, List.foldl_cons, ← read, ih]
      cases entry with
      | acted action answer ends =>
          rw [enter, historyIn_close, List.append_assoc]
          rfl
      | _ => rfl

theorem historyIn_readTurns (chronicle : Chronicle α) (turns : List (Turn α)) :
    historyIn (chronicle.readTurns turns).deeds =
      historyIn chronicle.deeds ++ historyOf turns := by
  induction turns generalizing chronicle with
  | nil => simp [readTurns, historyOf]
  | cons turn rest ih =>
      rw [readTurns, List.foldl_cons, ← readTurns, ih, readTurn, historyIn_close, historyIn_read,
        List.append_assoc, List.append_assoc, historyOf, historyOf, List.flatMap_cons, Turn.history,
        List.append_assoc]

theorem events_close (chronicle : Chronicle α) (act : Action α × Answer α) :
    (chronicle.close act).events = chronicle.events := by
  simp [close, events]

theorem events_read (chronicle : Chronicle α) (entries : List (ChannelEntry α)) :
    (chronicle.read entries).events = chronicle.events ++ eventsIn entries := by
  induction entries generalizing chronicle with
  | nil => simp [read, eventsIn]
  | cons entry rest ih =>
      rw [read, List.foldl_cons, ← read, ih]
      cases entry with
      | event event => simp [enter, events, eventsIn]
      | acted action answer ends =>
          rw [enter, events_close]
          rfl
      | _ => rfl

/-- The deeds hold every event of a run, in the order in which they happened. -/
theorem events_readTurns (chronicle : Chronicle α) (turns : List (Turn α)) :
    (chronicle.readTurns turns).events =
      chronicle.events ++ turns.flatMap fun turn => eventsIn turn.log := by
  induction turns generalizing chronicle with
  | nil => simp [readTurns]
  | cons turn rest ih =>
      rw [readTurns, List.foldl_cons, ← readTurns, ih, readTurn, events_close, events_read,
        List.append_assoc, List.flatMap_cons]

end Chronicle

/-- Everything was answered as it had to be, and came with the events that it had to. -/
inductive Recorded : List (Deed α) → Prop where
  | nil : Recorded []
  | snoc {deeds : List (Deed α)} (recorded : Recorded deeds) (action : Action α) :
      Recorded (deeds ++ [.due (historyIn deeds) action])
  | blocked {deeds : List (Deed α)} (recorded : Recorded deeds) :
      Recorded (deeds ++ [.refused])

variable {deeds : List (Deed α)}

theorem Recorded.lawful (recorded : Recorded deeds) : Lawful (historyIn deeds) := by
  induction recorded with
  | nil => exact .nil
  | snoc recorded action ih =>
      rw [historyIn_concat]
      exact ih.snoc action
  | blocked recorded ih =>
      rw [historyIn_concat]
      exact ih.blocked

/-- A deed of a run that grew by one is the new one, or was there before. -/
theorem split_concat {before after : List (Deed α)} {deed last : Deed α}
    (split : deeds ++ [last] = before ++ deed :: after) :
    deeds = before ∧ last = deed ∨ ∃ rest, deeds = before ++ deed :: rest := by
  obtain rfl | ⟨rest, newest, rfl⟩ := List.eq_nil_or_concat after
  · obtain ⟨same, alike⟩ := List.append_inj' split rfl
    exact .inl ⟨same, List.singleton_inj.mp alike⟩
  · rw [List.concat_eq_append, ← List.cons_append, ← List.append_assoc] at split
    exact .inr ⟨rest, (List.append_inj' split rfl).1⟩

/-- Every deed of a run was due when it was done, unless it was refused. -/
theorem Recorded.due_or_refused {before after : List (Deed α)} {deed : Deed α}
    (recorded : Recorded deeds) (split : deeds = before ++ deed :: after) :
    Recorded before ∧ (deed = .refused ∨ ∃ action, deed = .due (historyIn before) action) := by
  induction recorded generalizing after with
  | nil => simp at split
  | snoc recorded action ih =>
      obtain ⟨rfl, rfl⟩ | ⟨rest, earlier⟩ := split_concat split
      · exact ⟨recorded, .inr ⟨action, rfl⟩⟩
      · exact ih earlier
  | blocked recorded ih =>
      obtain ⟨rfl, rfl⟩ | ⟨rest, earlier⟩ := split_concat split
      · exact ⟨recorded, .inl rfl⟩
      · exact ih earlier

namespace Channel

variable {channel : Channel α} {chronicle : Chronicle α}

/-- The chronicle of what led to this channel is as it had to be. -/
structure Chronicled (channel : Channel α) (chronicle : Chronicle α) : Prop where
  recalls : channel.Recalls (historyIn chronicle.deeds)
  recorded : Recorded chronicle.deeds
  clear : chronicle.pending = []

theorem chronicled_new : ({} : Channel α).Chronicled {} :=
  ⟨recalls_new, .nil, rfl⟩

theorem Chronicled.perform (chronicled : channel.Chronicled chronicle) (action : Action α) :
    (channel.perform action).state.Chronicled
      ((chronicle.read ((channel.perform action).log.map .event)).close
        (action, (channel.perform action).result)) := by
  obtain ⟨recalls, recorded, clear⟩ := chronicled
  have entered : (chronicle.read ((channel.perform action).log.map .event)).close
      (action, (channel.perform action).result) =
        ⟨chronicle.deeds ++ [.due (historyIn chronicle.deeds) action], []⟩ := by
    rw [Chronicle.read_events, clear, recalls.answer, recalls.events]
    rfl
  refine ⟨?_, ?_, rfl⟩
  · rw [Chronicle.historyIn_close, Chronicle.historyIn_read, actsIn_events, List.append_nil]
    exact recalls.perform action
  · rw [entered]
    exact recorded.snoc action

theorem Chronicled.performAsPeer (chronicled : channel.Chronicled chronicle) (action : Action α) :
    (channel.performAsPeer action).state.Chronicled
      (chronicle.read (channel.performAsPeer action).log) := by
  rw [Channel.performAsPeer, Chronicle.read_append]
  cases permitted : permits action with
  | true => exact chronicled.perform action
  | false =>
      cases action with
      | dropReceiver =>
          obtain ⟨deeds, pending⟩ := chronicle
          obtain rfl : pending = [] := chronicled.clear
          have recalls := chronicled.recalls.performAsPeer .dropReceiver
          rw [← Chronicle.historyIn_read] at recalls
          exact ⟨recalls, chronicled.recorded.blocked, rfl⟩
      | _ => cases permitted

theorem Chronicled.performGroup (chronicled : channel.Chronicled chronicle)
    (group : List (Action α)) :
    (channel.performGroup group).state.Chronicled
      (chronicle.read (channel.performGroup group).log) := by
  induction group generalizing channel chronicle with
  | nil => exact chronicled
  | cons action rest ih =>
      rw [Channel.performGroup, Outcome.andThen_log, Chronicle.read_append]
      exact ih (chronicled.performAsPeer action)

theorem Chronicled.await (chronicled : channel.Chronicled chronicle) (group : List (Action α)) :
    (channel.await group).state.Chronicled (chronicle.read (channel.await group).log) := by
  have entered : chronicle.read (channel.await group).log =
      chronicle.read (channel.performGroup group).log := by
    rw [Channel.await]
    exact Chronicle.read_append chronicle (channel.performGroup group).log _
  rw [entered]
  exact chronicled.performGroup group

theorem Chronicled.awaitEach (chronicled : channel.Chronicled chronicle)
    (waited : List (List (Action α))) :
    (channel.awaitEach waited).state.Chronicled
      (chronicle.read (channel.awaitEach waited).log) := by
  induction waited generalizing channel chronicle with
  | nil => exact chronicled
  | cons group rest ih =>
      rw [Channel.awaitEach, Outcome.andThen_log, Chronicle.read_append]
      exact ih (chronicled.await group)

theorem Chronicled.receive (chronicled : channel.Chronicled chronicle)
    (alive : channel.receiverAlive = true) (script : List (List (Action α))) :
    (channel.receive script).state.Chronicled
      ((chronicle.read (channel.receive script).log).close
        (.tryReceive, (Reply.received (channel.receive script).result).answer)) := by
  obtain ⟨waited, waits⟩ := chronicled.recalls.exists_waitsFor alive script
  have waiting := chronicled.awaitEach waited
  have still := (channel.awaitEach_receiverAlive waited).trans alive
  have decided : (channel.awaitEach waited).state.tryReceive.result ≠ .error .empty :=
    mt ((chronicled.recalls.awaitEach waited).empty_iff still).mp waits.decided
  obtain ⟨log, state, answer⟩ := receiveLast_eq still decided
  have silent : ((channel.awaitEach waited).state.perform .tryReceive).log = [] :=
    waiting.recalls.events .tryReceive
  have attempted := waiting.perform .tryReceive
  rw [silent] at attempted
  rw [waits.ends, Outcome.andThen_log, Outcome.andThen_state, Outcome.andThen_result, log,
    List.append_nil, state, answer]
  exact attempted

theorem Chronicled.call (chronicled : channel.Chronicled chronicle) (call : Call α) :
    (channel.call call).state.Chronicled
      ((chronicle.read (channel.call call).log).close
        (call.attempt, (channel.call call).result.answer)) := by
  cases call with
  | act action => exact chronicled.perform action
  | receive script =>
      rw [Channel.call]
      cases alive : channel.receiverAlive with
      | true => exact chronicled.receive alive script
      | false =>
          have gone := chronicled.perform .tryReceive
          rwa [Channel.perform, ifReceiver, alive] at gone

theorem Chronicled.after (chronicled : channel.Chronicled chronicle) (calls : List (Call α)) :
    (channel.after calls).Chronicled (chronicle.readTurns (channel.turns calls)) := by
  induction calls generalizing channel chronicle with
  | nil => exact chronicled
  | cons call rest ih =>
      rw [turns, Chronicle.readTurns, List.foldl_cons]
      exact ih (chronicled.call call)

end Channel

end Handoff.OneShot
