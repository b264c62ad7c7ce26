import Handoff.Proofs.Readiness
import Handoff.Proofs.Ring.Notifications

namespace Handoff

/-! Whoever is blocked is notified of what it waits for, on a ring and on a one-shot
channel, and nobody is notified of anything else.
-/

namespace OneShot

/-- The peer's actions and how they were answered. -/
def actsIn (log : List (ChannelEntry α)) : List (Action α × Answer α) :=
  log.filterMap fun
    | .acted action answer _ => some (action, answer)
    | _ => none

/-- What was done in a turn, by whomever. -/
def Turn.acts (turn : Turn α) : List (Action α × Answer α) :=
  actsIn turn.log ++
    match turn.call, turn.reply with
    | .act action, .plain answer => [(action, answer)]
    | _, _ => []

def Action.sends : Action α → Answer α → Bool
  | .send _, .done => true
  | _, _ => false

/-- Whom an action has to tell: the receiver, of a value, or that the sender has left
without having `sent` one. -/
def Action.tells (sent : Bool) : Action α → Answer α → List Side
  | .send _, .done => [.receiver]
  | .dropSender, .done => if sent then [] else [.receiver]
  | _, _ => []

def sentBy (acts : List (Action α × Answer α)) : Bool :=
  acts.any fun (action, answer) => action.sends answer

/-- The same of some actions, one after the other. -/
def tells (sent : Bool) : List (Action α × Answer α) → List Side
  | [] => []
  | (action, answer) :: rest => action.tells sent answer ++ tells (sent || action.sends answer) rest

theorem actsIn_append (first second : List (ChannelEntry α)) :
    actsIn (first ++ second) = actsIn first ++ actsIn second :=
  List.filterMap_append

theorem actsIn_events (log : List (Event α)) : actsIn (log.map .event) = [] := by
  simp [actsIn, List.filterMap_map]

theorem sentBy_append (first second : List (Action α × Answer α)) :
    sentBy (first ++ second) = (sentBy first || sentBy second) :=
  List.any_append

theorem tells_append (sent : Bool) (first second : List (Action α × Answer α)) :
    tells sent (first ++ second) = tells sent first ++ tells (sent || sentBy first) second := by
  induction first generalizing sent with
  | nil => simp [tells, sentBy]
  | cons act rest ih => simp [tells, ih, sentBy, Bool.or_assoc]

namespace Channel

variable {channel middle after : Channel α} {action : Action α}
  {log later : List (ChannelEntry α)} {acts next : List (Action α × Answer α)}

/-- Who is told on the way from one state to another, and that it is enough. -/
structure Tells (channel : Channel α) (log : List (ChannelEntry α))
    (acts : List (Action α × Answer α)) (after : Channel α) : Prop where
  exact : toldIn log = tells channel.hasSent acts
  sent : after.hasSent = (channel.hasSent || sentBy acts)
  enables : channel.ready = false → after.ready = true → .receiver ∈ toldIn log

theorem tells_nothing (channel : Channel α) : channel.Tells [] [] channel where
  exact := rfl
  sent := by simp [sentBy]
  enables held ready := by
    rw [held] at ready
    cases ready

theorem Tells.trans (tells : channel.Tells log acts middle) (tells' : middle.Tells later next after) :
    channel.Tells (log ++ later) (acts ++ next) after where
  exact := by rw [toldIn_append, tells_append, tells.exact, tells'.exact, tells.sent]
  sent := by rw [tells'.sent, tells.sent, sentBy_append, Bool.or_assoc]
  enables held ready := by
    rw [toldIn_append, List.mem_append]
    cases between : middle.ready with
    | true => exact .inl (tells.enables held between)
    | false => exact .inr (tells'.enables between ready)

/-! One action. -/

theorem freeIfAbandoned_tells (channel : Channel α) :
    notifiedIn channel.freeIfAbandoned.log = [] ∧
      channel.freeIfAbandoned.state.hasSent = channel.hasSent := by
  rw [freeIfAbandoned]
  split
  · exact ⟨rfl, rfl⟩
  · cases stage : channel.stage with
    | sent => cases slot : channel.slot <;> simp [free, stage, take, slot, notifiedIn]
    | _ => simp [free, stage, notifiedIn]

theorem tryReceive_tells (channel : Channel α) :
    channel.tryReceive.log = [] ∧ channel.tryReceive.state.hasSent = channel.hasSent ∧
      (channel.ready = false → channel.tryReceive.state = channel) := by
  refine ⟨?_, ?_, tryReceive_of_unsent⟩
  · rw [Channel.tryReceive]
    split
    · rfl
    · cases stage : channel.stage with
      | sent => cases slot : channel.slot <;> simp [take, slot]
      | _ => rfl
  · rw [Channel.tryReceive]
    split
    · rfl
    · cases stage : channel.stage with
      | sent => cases slot : channel.slot <;> simp [take, slot]
      | _ => rfl

theorem receiveInto_tells (channel : Channel α) (register : α) :
    notifiedIn (channel.receiveInto register).log = [] := by
  rw [receiveInto]
  cases channel.tryReceive.result <;> simp [channel.tryReceive_tells.1, notifiedIn]

theorem events_tell {events : List (Event α)} {answer : Answer α}
    (told : notifiedIn events = action.tells channel.hasSent answer)
    (sent : after.hasSent = (channel.hasSent || action.sends answer))
    (enables : channel.ready = false → after.ready = true → .receiver ∈ notifiedIn events) :
    channel.Tells (events.map .event) [(action, answer)] after where
  exact := by simp [toldIn_events, told, tells]
  sent := by simpa [sentBy] using sent
  enables := by simpa [toldIn_events] using enables

theorem perform_tells (channel : Channel α) (action : Action α) :
    channel.Tells ((channel.perform action).log.map .event)
      [(action, (channel.perform action).result)] (channel.perform action).state := by
  have unmoved {answer : Answer α} (silent : action.tells channel.hasSent answer = [])
      (unsent : action.sends answer = false) :
      channel.Tells (([] : List (Event α)).map .event) [(action, answer)] channel :=
    events_tell silent.symm (by simp [unsent]) (channel.tells_nothing).enables
  cases action with
  | send value =>
      rw [perform, ifSender]
      split
      · cases sent : channel.hasSent with
        | true =>
            rw [send_of_sent sent]
            exact unmoved rfl rfl
        | false =>
            simp only [Channel.send, sent, Bool.false_eq_true, if_false]
            exact events_tell rfl (by simp [Action.sends]) fun _ _ => List.mem_singleton.mpr rfl
      · exact unmoved rfl rfl
  | tryReceive =>
      obtain ⟨log, sent, still⟩ := channel.tryReceive_tells
      rw [perform, ifReceiver]
      split
      · rw [Outcome.mapResult_log, Outcome.mapResult_state, Outcome.mapResult_result, log]
        refine events_tell ?_ ?_ fun held ready => ?_
        · cases channel.tryReceive.result <;> rfl
        · cases channel.tryReceive.result <;> simp [sent, Action.sends]
        · rw [still held, held] at ready
          cases ready
      · exact unmoved rfl rfl
  | receiveInto register =>
      obtain ⟨-, sent, still⟩ := channel.tryReceive_tells
      rw [perform, ifReceiver]
      split
      · refine events_tell (channel.receiveInto_tells register) ?_ fun held ready => ?_
        · simp [receiveInto_state, sent, Action.sends]
        · rw [Outcome.mapResult_state, receiveInto_state, still held, held] at ready
          cases ready
      · exact unmoved rfl rfl
  | dropSender =>
      rw [perform, ifSender]
      split
      · simp only [Outcome.mapResult_log, Outcome.mapResult_state, Outcome.mapResult_result,
          Channel.dropSender, Outcome.andThen_log, Outcome.andThen_state]
        obtain ⟨quiet, kept⟩ :=
          ({ channel.disconnect.state with senderAlive := false } : Channel α).freeIfAbandoned_tells
        refine events_tell ?_ ?_ fun held ready => ?_
        · rw [notifiedIn_append, quiet, disconnect]
          cases channel.hasSent <;> rfl
        · rw [kept, disconnect]
          split <;> simp [Action.sends]
        · rw [notifiedIn_append, disconnect]
          split
          · next sent =>
              rw [Channel.ready, freeIfAbandoned_stage, disconnect, if_pos sent] at ready
              exact absurd (held.symm.trans ready) Bool.false_ne_true
          · exact List.mem_append_left _ (List.mem_singleton.mpr rfl)
      · exact unmoved rfl rfl
  | dropReceiver =>
      rw [perform, ifReceiver]
      split
      · obtain ⟨quiet, kept⟩ :=
          ({ channel with receiverAlive := false } : Channel α).freeIfAbandoned_tells
        refine events_tell quiet ?_ fun held ready => ?_
        · simp [Channel.dropReceiver, kept, Action.sends]
        · rw [Outcome.mapResult_state, Channel.dropReceiver, Channel.ready,
            freeIfAbandoned_stage, ← Channel.ready] at ready
          exact absurd (held.symm.trans ready) Bool.false_ne_true
      · exact unmoved rfl rfl
  | describe => exact unmoved rfl rfl
  | unknown => exact unmoved rfl rfl

/-! With waiting. -/

theorem performAsPeer_tells (channel : Channel α) (action : Action α) :
    channel.Tells (channel.performAsPeer action).log (actsIn (channel.performAsPeer action).log)
      (channel.performAsPeer action).state := by
  rw [performAsPeer, actsIn_append, actsIn_events, List.nil_append]
  split
  · have tells := channel.perform_tells action
    exact ⟨by simpa [toldIn, actsIn] using tells.exact, tells.sent,
      by simpa [toldIn] using tells.enables⟩
  · refine ⟨?_, ?_, (channel.tells_nothing).enables⟩
    · cases action <;> rfl
    · cases action <;> simp [actsIn, sentBy, Action.sends]

theorem await_tells (channel : Channel α) (group : List (Action α)) :
    channel.Tells (channel.await group).log (actsIn (channel.await group).log)
      (channel.await group).state := by
  have acted : channel.Tells (channel.performGroup group).log
      (actsIn (channel.performGroup group).log) (channel.performGroup group).state := by
    induction group generalizing channel with
    | nil => exact channel.tells_nothing
    | cons action rest ih =>
        rw [performGroup, Outcome.andThen_log, Outcome.andThen_state, actsIn_append]
        exact (channel.performAsPeer_tells action).trans (ih _)
  rw [await]
  refine ⟨?_, ?_, ?_⟩
  · simpa [toldIn, actsIn] using acted.exact
  · simpa [actsIn] using acted.sent
  · simpa [toldIn] using acted.enables

theorem receiveLast_tells (channel : Channel α) :
    channel.Tells channel.receiveLast.log (actsIn channel.receiveLast.log)
      channel.receiveLast.state := by
  obtain ⟨log, sent, still⟩ := channel.tryReceive_tells
  have silent : channel.receiveLast.log = [] := by simp [receiveLast, asEntries, log]
  have same : channel.receiveLast.state = channel.tryReceive.state := rfl
  rw [silent, same]
  refine ⟨rfl, by simp [sent, actsIn, sentBy], fun held ready => ?_⟩
  rw [still held, held] at ready
  cases ready

theorem receive_tells (channel : Channel α) (script : List (List (Action α))) :
    channel.Tells (channel.receive script).log (actsIn (channel.receive script).log)
      (channel.receive script).state := by
  induction script generalizing channel with
  | nil =>
      by_cases empty : channel.tryReceive.result = .error .empty
      · rw [receive_of_empty_nil empty, Outcome.andThen_log, Outcome.andThen_state,
          actsIn_append]
        exact (channel.await_tells _).trans (receiveLast_tells _)
      · rw [receive_of_decided empty]
        exact channel.receiveLast_tells
  | cons group rest ih =>
      by_cases empty : channel.tryReceive.result = .error .empty
      · rw [receive_of_empty_cons empty, Outcome.andThen_log, Outcome.andThen_state,
          actsIn_append]
        exact (channel.await_tells group).trans (ih _)
      · rw [receive_of_decided empty]
        exact channel.receiveLast_tells

theorem call_tells (channel : Channel α) (call : Call α) (reports : EndReports) :
    channel.Tells (channel.call call).log
      (Turn.acts ⟨call, (channel.call call).result, (channel.call call).log, reports⟩)
      (channel.call call).state := by
  cases call with
  | act action =>
      have tells := channel.perform_tells action
      simpa [Channel.call, Turn.acts, asEntries, actsIn_events] using tells
  | receive script =>
      rw [Channel.call]
      split
      · simpa [Turn.acts] using channel.receive_tells script
      · exact channel.tells_nothing

theorem turns_tell (channel : Channel α) (calls : List (Call α)) :
    toldIn ((channel.turns calls).flatMap Turn.log) =
      tells channel.hasSent ((channel.turns calls).flatMap Turn.acts) := by
  induction calls generalizing channel with
  | nil => rfl
  | cons call rest ih =>
      have first := channel.call_tells call (channel.call call).state.reports
      rw [turns, List.flatMap_cons, List.flatMap_cons, toldIn_append, tells_append, ih,
        first.exact, first.sent]

/-! Access by access. -/

/-- One access to the slot or to the shared word, and what is done before the next one. -/
abbrev Access (α : Type u) := Channel α → Step α Unit

/-- One access after the other. -/
def follow (channel : Channel α) : List (Access α) → Step α Unit
  | [] => ⟨(), channel, []⟩
  | access :: rest => (access channel).andThen fun _ channel => channel.follow rest

/-- Moving the value out. -/
def takeAccesses (channel : Channel α) (log : List (Event α)) : List (Access α) :=
  if channel.receiverAlive && channel.stage == .sent then
    [fun channel => ⟨(), channel.take.2, []⟩,
      fun channel => ⟨(), { channel with stage := .received, hasReceived := true }, log⟩]
  else []

/-- The accesses that an action makes to more than look. -/
def accesses (channel : Channel α) : Action α → List (Access α)
  | .send value =>
      if channel.senderAlive && !channel.hasSent then
        [fun channel => ⟨(), channel.write value, []⟩,
          fun channel =>
            ⟨(), { channel with stage := .sent, hasSent := true }, [.notified .receiver]⟩]
      else []
  | .tryReceive => channel.takeAccesses []
  | .receiveInto register => channel.takeAccesses [.destroyed register]
  | .dropSender =>
      if channel.senderAlive then
        [disconnect, fun channel => { channel with senderAlive := false }.freeIfAbandoned]
      else []
  | .dropReceiver =>
      if channel.receiverAlive then
        [fun channel => { channel with receiverAlive := false }.freeIfAbandoned]
      else []
  | .describe | .unknown _ => []

/-- Each access that lets a blocked receiver go on is followed by a notification. -/
def EachTells (channel : Channel α) : List (Access α) → Prop
  | [] => True
  | access :: rest =>
      (channel.ready = false → (access channel).state.ready = true →
        .notified .receiver ∈ (access channel).log) ∧
      EachTells (access channel).state rest

theorem Coherent.follow_take (coherent : channel.Coherent) (alive : channel.receiverAlive = true)
    (log : List (Event α)) :
    channel.follow (channel.takeAccesses log) =
      { result := ()
        state := channel.tryReceive.state
        log := match channel.tryReceive.result with
          | .ok _ => log
          | .error _ => [] } := by
  have there : channel.present = true := by simp [present, alive]
  obtain ⟨stage, tried⟩ | ⟨stage, tried⟩ | ⟨stage, tried⟩ | ⟨value, stage, slot, tried⟩ :=
    coherent.tryReceive_cases there
  · simp [takeAccesses, stage, tried, follow]
  · simp [takeAccesses, stage, tried, follow]
  · simp [takeAccesses, stage, tried, follow]
  · simp [takeAccesses, alive, stage, tried, follow, take, slot, Outcome.andThen]

theorem takeAccesses_of_gone (gone : ¬channel.receiverAlive = true) (log : List (Event α)) :
    channel.takeAccesses log = [] := by
  simp [takeAccesses, gone]

/-- The accesses of an action come to the action. -/
theorem Coherent.follow_accesses (coherent : channel.Coherent) (action : Action α) :
    (channel.follow (channel.accesses action)).state = (channel.perform action).state ∧
      (channel.follow (channel.accesses action)).log = (channel.perform action).log := by
  cases action with
  | send value =>
      rw [Channel.perform, ifSender, accesses]
      split
      · next unsent =>
          simp only [Bool.and_eq_true, Bool.not_eq_true'] at unsent
          rw [if_pos unsent.1, Channel.send, unsent.2]
          exact ⟨rfl, rfl⟩
      · next idle =>
          split
          · next alive =>
              have sent : channel.hasSent = true := by simpa [alive] using idle
              rw [send_of_sent sent]
              exact ⟨rfl, rfl⟩
          · exact ⟨rfl, rfl⟩
  | tryReceive =>
      rw [Channel.perform, ifReceiver, accesses]
      split
      · next alive =>
          rw [coherent.follow_take alive]
          refine ⟨rfl, ?_⟩
          rw [Outcome.mapResult_log, channel.tryReceive_tells.1]
          cases channel.tryReceive.result <;> rfl
      · next gone =>
          rw [takeAccesses_of_gone gone]
          exact ⟨rfl, rfl⟩
  | receiveInto register =>
      rw [Channel.perform, ifReceiver, accesses]
      split
      · next alive =>
          rw [coherent.follow_take alive, Outcome.mapResult_state, Outcome.mapResult_log,
            receiveInto_state, receiveInto]
          refine ⟨rfl, ?_⟩
          cases channel.tryReceive.result <;> simp [channel.tryReceive_tells.1]
      · next gone =>
          rw [takeAccesses_of_gone gone]
          exact ⟨rfl, rfl⟩
  | dropSender =>
      rw [Channel.perform, ifSender, accesses]
      split
      · simp [follow, Channel.dropSender]
      · exact ⟨rfl, rfl⟩
  | dropReceiver =>
      rw [Channel.perform, ifReceiver, accesses]
      split
      · simp [follow, Channel.dropReceiver]
      · exact ⟨rfl, rfl⟩
  | describe => exact ⟨rfl, rfl⟩
  | unknown => exact ⟨rfl, rfl⟩

theorem takeAccesses_tell (channel : Channel α) (log : List (Event α)) :
    channel.EachTells (channel.takeAccesses log) := by
  rw [takeAccesses]
  split
  · next sent =>
      simp only [Bool.and_eq_true, beq_iff_eq] at sent
      simp [EachTells, Channel.ready, take, sent.2]
  · trivial

theorem accesses_tell (channel : Channel α) (action : Action α) :
    channel.EachTells (channel.accesses action) := by
  have freed {left : Channel α} (held : left.ready = false) :
      left.freeIfAbandoned.state.ready = false := by
    rwa [Channel.ready, freeIfAbandoned_stage]
  cases action with
  | send value =>
      rw [accesses]
      split
      · refine ⟨fun held ready => ?_, fun _ _ => List.mem_singleton.mpr rfl, trivial⟩
        exact absurd (held.symm.trans ready) Bool.false_ne_true
      · trivial
  | tryReceive => exact channel.takeAccesses_tell []
  | receiveInto register => exact channel.takeAccesses_tell [.destroyed register]
  | dropSender =>
      rw [accesses]
      split
      · refine ⟨fun held ready => ?_, fun held ready => ?_, trivial⟩
        · rw [disconnect] at ready ⊢
          split
          · next sent =>
              rw [if_pos sent] at ready
              exact absurd (held.symm.trans ready) Bool.false_ne_true
          · exact List.mem_cons_self
        · have still := @freed { channel.disconnect.state with senderAlive := false } held
          exact absurd (still.symm.trans ready) Bool.false_ne_true
      · trivial
  | dropReceiver =>
      rw [accesses]
      split
      · refine ⟨fun held ready => ?_, trivial⟩
        have still := @freed { channel with receiverAlive := false } held
        exact absurd (still.symm.trans ready) Bool.false_ne_true
      · trivial
  | describe => trivial
  | unknown => trivial

/-- In some calls on a new channel, the receiver hears of what it waits for and of nothing
else.  The calls may be followed by any other. -/
structure Notifies (calls : List (Call α)) : Prop where
  exact : toldIn ((({} : Channel α).turns calls).flatMap Turn.log) =
    tells false ((({} : Channel α).turns calls).flatMap Turn.acts)
  enables : ∀ call : Call α, (({} : Channel α).after calls).ready = false →
    ((({} : Channel α).after calls).call call).state.ready = true →
    .receiver ∈ toldIn ((({} : Channel α).after calls).call call).log
  afterStore : ∀ action : Action α,
    let channel := ({} : Channel α).after calls
    let ended := channel.follow (channel.accesses action)
    ended.state = (channel.perform action).state ∧ ended.log = (channel.perform action).log ∧
      channel.EachTells (channel.accesses action)

theorem notifies (calls : List (Call α)) : Notifies calls where
  exact := turns_tell _ calls
  enables call := (call_tells _ call (({} : Channel α).after calls).reports).enables
  afterStore action := by
    obtain ⟨state, log⟩ := (coherent_after calls).follow_accesses action
    exact ⟨state, log, accesses_tell _ action⟩

end Channel

end OneShot

/-- Every change that a blocked side waits for is notified to it, by the operation that made
the change and after it was made.  Over a run, exactly this is notified: on a ring, each
element sent to the receiver, each one received to the sender, and each drop of an end to
both; on a one-shot channel, to the receiver, the value or that there will be none. -/
theorem changes_are_notified {overflow : Overflow} {requested : Nat}
    {created : Ring.Channel.Step α Unit}
    (made : Ring.Channel.create overflow requested = .ok created) (calls : List (Ring.Call α))
    (few : (Ring.Ledger.ofTurns (created.state.turns calls)).accepted.length <
      Ring.Cursor.horizon) (moves : List (Ring.Move α))
    (fewMoved : ((Ring.Interleaving.ofChannel created.state).follow moves).accepted.size <
      Ring.Cursor.horizon) (others : List (OneShot.Call α)) :
    created.state.Notifies calls ∧ created.state.MovesTell moves ∧
      OneShot.Channel.Notifies others :=
  ⟨Ring.Channel.notifies made calls few, Ring.Channel.moves_tell made moves fewMoved,
    OneShot.Channel.notifies others⟩

/-- A blocked send and its peer, a thread that publishes, and a sender that leaves. -/
theorem each_is_told :
    let calls : List (Ring.Call Nat) :=
      [.act (.trySend 1), .send 2 [[], [.tryReceive]], .act .dropReceiver, .act (.trySend 3)]
    let moves : List (Ring.Move Nat) := .startSend 7 :: List.replicate 4 .stepSender
    let others : List (OneShot.Call Nat) := [.receive [[.tryReceive], [.dropSender]]]
    (Ring.Channel.ofSize .wait 2).Notifies calls ∧
      ((Ring.Channel.ofSize .wait 2).turns calls).map (fun turn => toldIn turn.log) =
        [[.receiver], [.sender, .receiver], [.receiver, .sender], []] ∧
      (Ring.Channel.ofSize .wait 2).MovesTell moves ∧ OneShot.Channel.Notifies others := by
  intro calls moves others
  obtain ⟨ring, threads, channel⟩ := @changes_are_notified Nat .wait 2
    ⟨(), Ring.Channel.ofSize .wait 2, [.noted (.ringCreated 2 2 false)]⟩ rfl calls
    (by decide +kernel) moves (by decide) others
  exact ⟨ring, by decide +kernel, threads, channel⟩

end Handoff
