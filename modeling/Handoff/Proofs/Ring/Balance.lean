import Handoff.Proofs.Ring.Ledger

namespace Handoff.Ring

/-! The books of a queue balance: whatever was accepted has left in the order of its
arrival, or is still there.
-/

/-- On the way from one queue to another the sent values came in at the back, and the
given exits were taken at the front.  Only the last end to go frees anything. -/
structure Queue.Flow (queue : Queue α) (sent : List α) (left : List (Exit α))
    (notices : List Notice) (after : Queue α) : Prop where
  moved : queue.items ++ sent = left.map Exit.value ++ after.items
  counted : after.departed = queue.departed + left.length
  numbered : ∀ offset value cursor,
    left[offset]? = some (Exit.overwritten value cursor) → cursor = queue.departed + offset
  bound : after.bound = queue.bound
  fits : queue.items.length ≤ queue.bound → after.items.length ≤ after.bound
  present : after.present → queue.present
  unfreed : after.present → ∀ exit ∈ left, exit.isFreed = false
  told : after.present → notices = left.filterMap Exit.notice?

/-- What was accepted is what has left, in the same order, and what is still there; an
overwritten element was reported at the position at which it had been accepted. -/
structure Ledger.Balances (ledger : Ledger α) (queue : Queue α) : Prop where
  conserved : ledger.accepted = ledger.exits.map Exit.value ++ queue.items
  departed : ledger.exits.length = queue.departed
  numbered : ∀ position value cursor,
    ledger.exits[position]? = some (Exit.overwritten value cursor) → cursor = position
  returned : ∀ pair ∈ ledger.returned, pair.1 = pair.2
  clear : ledger.pending = []
  fits : queue.items.length ≤ queue.bound
  unfreed : queue.present → ∀ exit ∈ ledger.exits, exit.isFreed = false
  told : queue.present → ledger.notices = ledger.exits.filterMap Exit.notice?

theorem exitsIn_freed (items : List α) (unread : Nat) :
    exitsIn (items.map .destroyed ++ [.noted (.ringFreed unread)]) = items.map .freed := by
  induction items with
  | nil => rfl
  | cons item rest ih =>
      cases rest with
      | nil => rfl
      | cons next others => simpa [exitsIn] using ih

namespace Queue

variable {queue middle after : Queue α} {value item : α} {rest : List α}

theorem Flow.refl (queue : Queue α) : queue.Flow [] [] [] queue where
  moved := by simp
  counted := rfl
  numbered := by intro _ _ _ found; simp at found
  bound := rfl
  fits := id
  present := id
  unfreed := by intro _ _ member; simp at member
  told := by intro _; rfl

theorem Flow.trans {sent more : List α} {left gone : List (Exit α)} {notices later : List Notice}
    (first : queue.Flow sent left notices middle) (second : middle.Flow more gone later after) :
    queue.Flow (sent ++ more) (left ++ gone) (notices ++ later) after where
  moved := by
    rw [← List.append_assoc, first.moved, List.append_assoc, second.moved, List.map_append,
      List.append_assoc]
  counted := by
    rw [second.counted, first.counted, List.length_append, Nat.add_assoc]
  numbered := by
    intro offset value cursor found
    by_cases early : offset < left.length
    · rw [List.getElem?_append_left early] at found
      exact first.numbered offset value cursor found
    · rw [List.getElem?_append_right (by omega)] at found
      have position := second.numbered _ value cursor found
      rw [first.counted] at position
      omega
  bound := second.bound.trans first.bound
  fits := fun fits => second.fits (first.fits fits)
  present := fun present => first.present (second.present present)
  unfreed := by
    intro present exit member
    rcases List.mem_append.mp member with early | late
    · exact first.unfreed (second.present present) exit early
    · exact second.unfreed present exit late
  told := by
    intro present
    rw [first.told (second.present present), second.told present, List.filterMap_append]

theorem append_flow (room : queue.items.length < queue.bound) (value : α) :
    queue.Flow [value] [] [] (queue.append value) where
  moved := by simp [append]
  counted := rfl
  numbered := by intro _ _ _ found; simp at found
  bound := rfl
  fits := by
    intro _
    simpa [append] using Nat.succ_le_of_lt room
  present := id
  unfreed := by intro _ _ member; simp at member
  told := by intro _; rfl

/-- The oldest element leaves, by an exit that names the right position if any. -/
theorem removeOldest_flow (exit : Exit α) (items : queue.items = exit.value :: rest)
    (unfreed : exit.isFreed = false)
    (numbered : ∀ value cursor, exit = .overwritten value cursor → cursor = queue.departed) :
    queue.Flow [] [exit] exit.notice?.toList queue.removeOldest where
  moved := by simp [removeOldest, items]
  counted := rfl
  numbered := by
    intro offset value cursor found
    cases offset with
    | zero => exact numbered value cursor (by simpa using found)
    | succ offset => simp at found
  bound := rfl
  fits := by
    intro fits
    simpa [removeOldest] using Nat.le_trans (Nat.sub_le _ _) fits
  present := id
  unfreed := by
    intro _
    simpa using unfreed
  told := by
    intro _
    cases notice : exit.notice? <;> simp [notice]

theorem removeOldest_room (items : queue.items = item :: rest)
    (fits : queue.items.length ≤ queue.bound) :
    queue.removeOldest.items.length < queue.removeOldest.bound := by
  simp only [items, List.length_cons, removeOldest, List.tail_cons] at fits ⊢
  exact fits

/-! Sending. -/

theorem trySend_flow (fits : queue.items.length ≤ queue.bound)
    (accepted : (queue.trySend value).result = .ok ()) :
    queue.Flow [value] (exitsIn (queue.trySend value).log) (noticesIn (queue.trySend value).log)
      (queue.trySend value).state := by
  obtain ⟨_, tried⟩ | ⟨_, room, tried⟩ | ⟨oldest, rest, _, _, _, items, tried⟩ | ⟨_, _, _, tried⟩ :=
    queue.trySend_cases value
  · rw [tried] at accepted
    cases accepted
  · rw [tried]
    exact append_flow room value
  · rw [tried]
    have leaving := removeOldest_flow (.overwritten oldest queue.departed) items rfl
      (by intro value cursor same; cases same; rfl)
    have flow := leaving.trans (append_flow (removeOldest_room items fits) value)
    simpa [exitsIn, noticesIn, Exit.notice?] using flow
  · rw [tried] at accepted
    cases accepted

/-- A queue that has room takes the next value of a feed, if there is a sender. -/
theorem sendNext_of_room (alive : queue.receiverAlive = true)
    (room : queue.items.length < queue.bound) (feed : List α) :
    queue.sendNext feed = ⟨(), queue, []⟩ ∧ (queue.senderAlive = false ∨ feed = []) ∨
      ∃ value rest, feed = value :: rest ∧
        queue.sendNext feed = ⟨(), queue.append value, [.notified .receiver]⟩ := by
  cases feed with
  | nil => exact .inl ⟨rfl, .inr rfl⟩
  | cons value rest =>
      cases sender : queue.senderAlive with
      | false => exact .inl ⟨by simp [sendNext, sender], .inl rfl⟩
      | true =>
          refine .inr ⟨value, rest, rfl, ?_⟩
          simp [sendNext, sender, trySend, alive, room, Outcome.mapResult]

theorem sendNext_of_sender_gone (gone : queue.senderAlive = false) (feed : List α) :
    queue.sendNext feed = ⟨(), queue, []⟩ := by
  cases feed <;> simp [sendNext, gone]

/-! Receiving. -/

theorem receive_flow (items : queue.items = item :: rest) :
    queue.Flow [] [.received item] [] queue.removeOldest :=
  removeOldest_flow (.received item) items rfl (by intro _ _ same; cases same)

theorem drainFor_of_nil (count : Nat) (items : queue.items = []) (feed : List α) :
    drainFor count queue feed = ⟨[], queue, []⟩ := by
  cases count with
  | zero => rfl
  | succ count => simp [drainFor, tryReceive_of_nil items]

theorem drainFor_of_cons {feed : List α} {log : List (Event α)} (count : Nat)
    (items : queue.items = item :: rest)
    (fed : queue.removeOldest.sendNext feed = ⟨(), after, log⟩) :
    drainFor (count + 1) queue feed =
      { result := item :: (drainFor count after feed.tail).result
        state := (drainFor count after feed.tail).state
        log := .notified .sender :: (log ++ (drainFor count after feed.tail).log) } := by
  simp [drainFor, tryReceive_of_cons items, fed]

theorem drainFor_of_sender_gone (count : Nat) (gone : queue.senderAlive = false)
    (feed : List α) : receiverNotices (drainFor count queue feed).log = 0 := by
  induction count generalizing queue feed with
  | zero => rfl
  | succ count ih =>
      cases items : queue.items with
      | nil => simp [drainFor_of_nil _ items, receiverNotices]
      | cons item rest =>
          have later := @ih queue.removeOldest gone feed.tail
          rw [drainFor_of_cons count items
            (@sendNext_of_sender_gone _ queue.removeOldest gone feed)]
          simpa [receiverNotices] using later

/-- A drain takes elements out at the front and puts what it is fed in at the back.
There is always room for that, so nothing is overwritten. -/
theorem drainFor_flow (count : Nat) (alive : queue.receiverAlive = true)
    (fits : queue.items.length ≤ queue.bound) (feed : List α) :
    queue.Flow (feed.take (receiverNotices (drainFor count queue feed).log))
        ((drainFor count queue feed).result.map .received)
        (noticesIn (drainFor count queue feed).log) (drainFor count queue feed).state ∧
      exitsIn (drainFor count queue feed).log = [] := by
  induction count generalizing queue feed with
  | zero => exact ⟨by simpa [drainFor, receiverNotices, noticesIn] using Flow.refl queue, rfl⟩
  | succ count ih =>
      cases items : queue.items with
      | nil =>
          rw [drainFor_of_nil _ items]
          exact ⟨by simpa [receiverNotices, noticesIn] using Flow.refl queue, rfl⟩
      | cons item rest =>
          have room := removeOldest_room items fits
          have taking := queue.receive_flow items
          obtain ⟨fed, idle⟩ | ⟨value, others, rfl, fed⟩ :=
            queue.removeOldest.sendNext_of_room alive room feed
          · rw [drainFor_of_cons count items fed]
            obtain ⟨flow, quiet⟩ :=
              @ih queue.removeOldest alive (Nat.le_of_lt room) feed.tail
            -- nothing is fed from here on, so the tail of the feed does as well as the feed
            have same : feed.tail.take
                  (receiverNotices (drainFor count queue.removeOldest feed.tail).log) =
                feed.take
                  (receiverNotices (drainFor count queue.removeOldest feed.tail).log) := by
              rcases idle with gone | rfl
              · simp [drainFor_of_sender_gone count gone]
              · rfl
            rw [same] at flow
            refine ⟨?_, by simpa [exitsIn] using quiet⟩
            simpa [receiverNotices, noticesIn] using taking.trans flow
          · rw [drainFor_of_cons count items fed]
            obtain ⟨flow, quiet⟩ :=
              @ih (queue.removeOldest.append value) alive
                (by simpa [append, Nat.succ_le_iff] using room) others
            have feeding := (taking.trans (append_flow room value)).trans flow
            exact ⟨by simpa [receiverNotices, noticesIn] using feeding,
              by simpa [exitsIn] using quiet⟩

/-! Dropping an end. -/

theorem afterDrop_of_absent (gone : queue.present = false) :
    queue.afterDrop =
      { result := ()
        state := { queue with departed := queue.accepted, items := [] }
        log :=
          [.notified .receiver, .notified .sender] ++ (queue.items.map .destroyed ++
            if queue.items.isEmpty then [] else [.noted (.ringFreed queue.items.length)]) } := by
  simp [afterDrop, freeIfAbandoned, gone]

theorem exitsIn_afterDrop (gone : queue.present = false) :
    exitsIn queue.afterDrop.log = queue.items.map .freed := by
  rw [afterDrop_of_absent gone]
  cases items : queue.items with
  | nil => rfl
  | cons item rest => exact exitsIn_freed (item :: rest) (item :: rest).length

theorem noticesIn_afterDrop (gone : queue.present = false) :
    noticesIn queue.afterDrop.log =
      if queue.items.isEmpty then [] else [.ringFreed queue.items.length] := by
  rw [afterDrop_of_absent gone]
  cases queue.items <;> simp [noticesIn, List.filterMap_map]

theorem afterDrop_flow (queue : Queue α) :
    queue.Flow [] (exitsIn queue.afterDrop.log) (noticesIn queue.afterDrop.log)
      queue.afterDrop.state := by
  cases present : queue.present with
  | true =>
      have left : queue.afterDrop = ⟨(), queue, [.notified .receiver, .notified .sender]⟩ := by
        simp [afterDrop, freeIfAbandoned, present]
      rw [left]
      exact Flow.refl queue
  | false =>
      have absent : queue.afterDrop.state.present = false := by
        rw [afterDrop_of_absent present]
        exact present
      rw [exitsIn_afterDrop present]
      refine ⟨?_, ?_, ?_, ?_, ?_, ?_, ?_, ?_⟩
      · simp [afterDrop_of_absent present, Exit.value, Function.comp_def]
      · simp [afterDrop_of_absent present, accepted]
      · intro offset value cursor found
        simp only [List.getElem?_map, Option.map_eq_some_iff] at found
        obtain ⟨_, _, same⟩ := found
        cases same
      · rw [afterDrop_of_absent present]
      · simp [afterDrop_of_absent present]
      · simp [absent]
      · simp [absent]
      · simp [absent]

/-! Any action, as it is booked. -/

theorem idle_flow (queue : Queue α) (action : Action α) {answer : Answer α}
    (idle : answer = .gone ∨ answer = .refused) :
    queue.Flow (action.acceptedBy answer []) (Action.exitsBy answer []) [] queue := by
  rcases idle with rfl | rfl <;> cases action <;>
    simpa [Action.acceptedBy, Action.exitsBy, exitsIn, receiverNotices] using Flow.refl queue

theorem perform_trySend_flow (fits : queue.items.length ≤ queue.bound)
    (alive : queue.senderAlive = true) (value : α) :
    queue.Flow
      ((Action.trySend value).acceptedBy (queue.perform (.trySend value)).result
        (queue.perform (.trySend value)).log)
      (Action.exitsBy (queue.perform (.trySend value)).result
        (queue.perform (.trySend value)).log)
      (noticesIn (queue.perform (.trySend value)).log) (queue.perform (.trySend value)).state := by
  cases tried : (queue.trySend value).result with
  | error error =>
      have performed : queue.perform (.trySend value) = ⟨.notSent error, queue, []⟩ := by
        simp [perform, alive, trySend_rejected tried, Outcome.mapResult]
      rw [performed]
      exact Flow.refl queue
  | ok =>
      have performed : queue.perform (.trySend value) =
          { queue.trySend value with result := .done } := by
        simp [perform, alive, tried, Outcome.mapResult]
      rw [performed]
      exact trySend_flow fits tried

theorem perform_tryReceive_flow (alive : queue.receiverAlive = true) :
    queue.Flow []
      (Action.exitsBy (queue.perform .tryReceive).result (queue.perform .tryReceive).log)
      (noticesIn (queue.perform .tryReceive).log) (queue.perform .tryReceive).state := by
  cases items : queue.items with
  | nil =>
      have performed : queue.perform .tryReceive =
          ⟨.notReceived (if queue.senderAlive then .empty else .closed), queue, []⟩ := by
        simp [perform, alive, tryReceive_of_nil items, Outcome.mapResult]
      rw [performed]
      exact Flow.refl queue
  | cons item rest =>
      have performed : queue.perform .tryReceive =
          ⟨.received item, queue.removeOldest, [.notified .sender]⟩ := by
        simp [perform, alive, tryReceive_of_cons items, Outcome.mapResult]
      rw [performed]
      exact queue.receive_flow items

theorem perform_receiveInto_flow (alive : queue.receiverAlive = true) (register : α) :
    queue.Flow []
      (Action.exitsBy (queue.perform (.receiveInto register)).result
        (queue.perform (.receiveInto register)).log)
      (noticesIn (queue.perform (.receiveInto register)).log)
      (queue.perform (.receiveInto register)).state := by
  cases items : queue.items with
  | nil =>
      have performed : queue.perform (.receiveInto register) =
          ⟨.register (if queue.senderAlive then .channelEmpty else .channelClosed) register,
            queue, []⟩ := by
        simp [perform, alive, receiveInto_of_nil items, Outcome.mapResult]
      rw [performed]
      cases queue.senderAlive <;> exact Flow.refl queue
  | cons item rest =>
      have performed : queue.perform (.receiveInto register) =
          { result := .register .success item
            state := queue.removeOldest
            log := [.notified .sender, .destroyed register] } := by
        simp [perform, alive, receiveInto_of_cons items, Outcome.mapResult]
      rw [performed]
      exact queue.receive_flow items

theorem Flow.ofDrop {sent : List α} {left : List (Exit α)} {notices : List Notice}
    (flow : middle.Flow sent left notices after) (there : queue.present = true)
    (items : middle.items = queue.items) (departed : middle.departed = queue.departed)
    (bound : middle.bound = queue.bound) : queue.Flow sent left notices after where
  moved := items ▸ flow.moved
  counted := departed ▸ flow.counted
  numbered := departed ▸ flow.numbered
  bound := flow.bound.trans bound
  fits := items ▸ bound ▸ flow.fits
  present := fun _ => there
  unfreed := flow.unfreed
  told := flow.told

theorem perform_flow (fits : queue.items.length ≤ queue.bound) (action : Action α) :
    queue.Flow
      (action.acceptedBy (queue.perform action).result (queue.perform action).log)
      (Action.exitsBy (queue.perform action).result (queue.perform action).log)
      (noticesIn (queue.perform action).log) (queue.perform action).state := by
  have gone (performed : queue.perform action = ⟨.gone, queue, []⟩) : queue.Flow
      (action.acceptedBy (queue.perform action).result (queue.perform action).log)
      (Action.exitsBy (queue.perform action).result (queue.perform action).log)
      (noticesIn (queue.perform action).log) (queue.perform action).state := by
    rw [performed]
    exact queue.idle_flow action (.inl rfl)
  cases action with
  | trySend value =>
      cases alive : queue.senderAlive with
      | true => exact perform_trySend_flow fits alive value
      | false => exact gone (by simp [perform, alive])
  | tryReceive =>
      cases alive : queue.receiverAlive with
      | true => exact perform_tryReceive_flow alive
      | false => exact gone (by simp [perform, alive])
  | receiveInto register =>
      cases alive : queue.receiverAlive with
      | true => exact perform_receiveInto_flow alive register
      | false => exact gone (by simp [perform, alive])
  | drain limit feed =>
      cases alive : queue.receiverAlive with
      | true =>
          have performed : queue.perform (.drain limit feed) =
              (queue.drain limit feed).mapResult .drained := by
            simp [perform, alive]
          obtain ⟨flow, quiet⟩ := queue.drainFor_flow
            (min (limit.getD (queue.items.length + feed.length))
              (queue.items.length + feed.length)) alive fits feed
          rw [performed]
          simpa [drain, Action.acceptedBy, Action.exitsBy, quiet] using flow
      | false => exact gone (by simp [perform, alive])
  | dropSender =>
      cases alive : queue.senderAlive with
      | true =>
          rw [show queue.perform .dropSender = queue.dropSender.mapResult fun _ => .done by
            simp [perform, alive]]
          exact ({ queue with senderAlive := false } : Queue α).afterDrop_flow.ofDrop
            (by simp [present, alive]) rfl rfl rfl
      | false => exact gone (by simp [perform, alive])
  | dropReceiver =>
      cases alive : queue.receiverAlive with
      | true =>
          rw [show queue.perform .dropReceiver = queue.dropReceiver.mapResult fun _ => .done by
            simp [perform, alive]]
          exact ({ queue with receiverAlive := false } : Queue α).afterDrop_flow.ofDrop
            (by simp [present, alive]) rfl rfl rfl
      | false => exact gone (by simp [perform, alive])
  | describe => exact Flow.refl queue
  | unknown => exact Flow.refl queue

theorem perform_returned (action : Action α) :
    ∀ pair ∈ action.returnedBy (queue.perform action).result, pair.1 = pair.2 := by
  cases action with
  | trySend value =>
      intro pair member
      rw [perform] at member
      split at member
      · cases tried : (queue.trySend value).result with
        | ok => simp [tried, Action.returnedBy] at member
        | error error =>
            have same := (trySend_rejected tried).1
            simp only [Outcome.mapResult_result, tried, Action.returnedBy,
              List.mem_singleton] at member
            rw [member, same]
      · simp [Action.returnedBy] at member
  | _ => simp [Action.returnedBy]

end Queue

namespace Ledger

variable {ledger : Ledger α} {queue after : Queue α}

theorem Balances.accepted_length (balances : ledger.Balances queue) :
    ledger.accepted.length = queue.accepted := by
  rw [balances.conserved, List.length_append, List.length_map, balances.departed]
  rfl

theorem Balances.extend {sent : List α} {left : List (Exit α)} {notices : List Notice}
    {returned : List (α × α)} (balances : ledger.Balances queue)
    (flow : queue.Flow sent left notices after)
    (returns : ∀ pair ∈ returned, pair.1 = pair.2) :
    Balances
      { accepted := ledger.accepted ++ sent
        exits := ledger.exits ++ left
        notices := ledger.notices ++ notices
        returned := ledger.returned ++ returned } after where
  conserved := by
    rw [balances.conserved, List.append_assoc, flow.moved, List.map_append, List.append_assoc]
  departed := by rw [List.length_append, balances.departed, flow.counted]
  numbered := by
    intro position value cursor found
    by_cases early : position < ledger.exits.length
    · rw [List.getElem?_append_left early] at found
      exact balances.numbered position value cursor found
    · rw [List.getElem?_append_right (by omega)] at found
      have place := flow.numbered _ value cursor found
      rw [← balances.departed] at place
      omega
  returned := by
    intro pair member
    rcases List.mem_append.mp member with early | late
    · exact balances.returned pair early
    · exact returns pair late
  clear := rfl
  fits := flow.fits balances.fits
  unfreed := by
    intro present exit member
    rcases List.mem_append.mp member with early | late
    · exact balances.unfreed (flow.present present) exit early
    · exact flow.unfreed present exit late
  told := by
    intro present
    rw [balances.told (flow.present present), flow.told present, List.filterMap_append]

/-! Reading the record of a queue keeps the books in balance. -/

theorem Balances.settle {returned : List (α × α)} (balances : ledger.Balances queue)
    (returns : ∀ pair ∈ returned, pair.1 = pair.2) : (ledger.settle returned).Balances queue := by
  rw [Ledger.settle, balances.clear]
  simpa [exitsIn, noticesIn] using balances.extend (Queue.Flow.refl queue) returns

theorem Balances.handBack (balances : ledger.Balances queue) (value : α) :
    (ledger.settle [(value, value)]).Balances queue :=
  balances.settle (by simp)

theorem Balances.giveUp (balances : ledger.Balances queue) :
    (ledger.settle []).Balances queue :=
  balances.settle (by simp)

theorem Balances.perform (balances : ledger.Balances queue) (action : Action α) :
    (ledger.book action (queue.perform action).result (queue.perform action).log).Balances
      (queue.perform action).state :=
  balances.extend (Queue.perform_flow balances.fits action) (Queue.perform_returned action)

theorem Balances.refuse (balances : ledger.Balances queue) (action : Action α) :
    (ledger.book action .refused []).Balances queue := by
  have returns : ∀ pair ∈ action.returnedBy (.refused : Answer α), pair.1 = pair.2 := by
    cases action <;> simp [Action.returnedBy]
  exact balances.extend (queue.idle_flow action (.inr rfl)) returns

theorem Balances.performAsPeer (balances : ledger.Balances queue) (blocked : Side)
    (action : Action α) :
    (ledger.read (queue.performAsPeer blocked action).log).Balances
      (queue.performAsPeer blocked action).state := by
  unfold Queue.performAsPeer
  rw [read_acted balances.clear]
  split
  · exact balances.perform action
  · exact balances.refuse action

theorem Balances.performGroup (balances : ledger.Balances queue) (blocked : Side)
    (group : List (Action α)) :
    (ledger.read (queue.performGroup blocked group).log).Balances
      (queue.performGroup blocked group).state := by
  induction group generalizing ledger queue with
  | nil => exact balances
  | cons action rest ih =>
      simp only [Queue.performGroup, Outcome.andThen_log, Outcome.andThen_state, read_append]
      exact ih (balances.performAsPeer blocked action)

theorem Balances.await (balances : ledger.Balances queue) (blocked : Side)
    (group : List (Action α)) :
    (ledger.read (queue.await blocked group).log).Balances (queue.await blocked group).state := by
  have acted := balances.performGroup blocked group
  simpa [Queue.await, enter] using acted

/-- The first attempt of a blocking send settles it, or there is no room. -/
theorem Balances.send_or_full (balances : ledger.Balances queue) (value : α)
    (script shown : List (List (Action α))) :
    ((ledger.read (queue.send value script).log).close (.send value shown)
      (.sent (queue.send value script).result)).Balances (queue.send value script).state ∨
      (queue.trySend value).result = .error (.full value) := by
  cases tried : (queue.trySend value).result with
  | ok =>
      rw [Queue.send_of_accepted tried, read_events]
      simp only [close, balances.clear, List.nil_append]
      have flow := Queue.trySend_flow balances.fits tried
      exact .inl (balances.extend flow (by simp [Action.returnedBy]))
  | error error =>
      have same := (Queue.trySend_rejected tried).1
      cases error with
      | closed returned =>
          obtain rfl : returned = value := same
          rw [Queue.send_of_closed tried]
          exact .inl (balances.handBack returned)
      | full returned =>
          obtain rfl : returned = value := same
          exact .inr rfl

theorem Balances.send (balances : ledger.Balances queue) (value : α)
    (script shown : List (List (Action α))) :
    ((ledger.read (queue.send value script).log).close (.send value shown)
      (.sent (queue.send value script).result)).Balances (queue.send value script).state := by
  induction script generalizing ledger queue with
  | nil =>
      obtain settled | full := balances.send_or_full value [] shown
      · exact settled
      · rw [Queue.send_of_full_nil full]
        exact (balances.await .sender [.dropReceiver]).handBack value
  | cons group rest ih =>
      obtain settled | full := balances.send_or_full value (group :: rest) shown
      · exact settled
      · rw [Queue.send_of_full_cons full]
        simpa using ih (balances.await .sender group)

theorem Balances.receive_or_empty (balances : ledger.Balances queue)
    (script shown : List (List (Action α))) :
    ((ledger.read (queue.receive script).log).close (.receive shown)
      (.received (queue.receive script).result)).Balances (queue.receive script).state ∨
      queue.items = [] ∧ queue.senderAlive = true := by
  cases items : queue.items with
  | cons item rest =>
      rw [Queue.receive_of_cons items]
      simp only [read_cons, read_nil, enter, close, balances.clear, List.nil_append]
      exact .inl (balances.extend (Queue.receive_flow items) (by simp [Action.returnedBy]))
  | nil =>
      cases sender : queue.senderAlive with
      | false =>
          rw [Queue.receive_of_closed items sender]
          exact .inl balances.giveUp
      | true => exact .inr ⟨rfl, rfl⟩

theorem Balances.receive (balances : ledger.Balances queue)
    (script shown : List (List (Action α))) :
    ((ledger.read (queue.receive script).log).close (.receive shown)
      (.received (queue.receive script).result)).Balances (queue.receive script).state := by
  induction script generalizing ledger queue with
  | nil =>
      obtain settled | ⟨items, sender⟩ := balances.receive_or_empty [] shown
      · exact settled
      · rw [Queue.receive_of_empty_nil items sender]
        exact (balances.await .receiver [.dropSender]).giveUp
  | cons group rest ih =>
      obtain settled | ⟨items, sender⟩ := balances.receive_or_empty (group :: rest) shown
      · exact settled
      · rw [Queue.receive_of_empty_cons items sender]
        simpa using ih (balances.await .receiver group)

theorem Balances.readTurn (balances : ledger.Balances queue) (call : Call α)
    (reports : EndReports) :
    (ledger.readTurn ⟨call, (queue.call call).result, (queue.call call).log, reports⟩).Balances
      (queue.call call).state := by
  cases call with
  | act action =>
      have booked := balances.perform action
      simpa [Ledger.readTurn, Queue.call, read_events, close, book, balances.clear] using booked
  | send value script =>
      by_cases alive : queue.senderAlive
      · simpa [Ledger.readTurn, Queue.call, alive] using balances.send value script script
      · rw [show queue.call (.send value script) = ⟨.plain .gone, queue, []⟩ by
          simp [Queue.call, alive]]
        exact balances.giveUp
  | receive script =>
      by_cases alive : queue.receiverAlive
      · simpa [Ledger.readTurn, Queue.call, alive] using balances.receive script script
      · rw [show queue.call (.receive script) = ⟨.plain .gone, queue, []⟩ by
          simp [Queue.call, alive]]
        exact balances.giveUp

theorem Balances.readTurns (balances : ledger.Balances queue) (calls : List (Call α)) :
    (ledger.readTurns (queue.turns calls)).Balances (queue.after calls) := by
  induction calls generalizing ledger queue with
  | nil => exact balances
  | cons call rest ih => exact ih (balances.readTurn call _)

theorem balances_empty (overflow : Overflow) (bound : Nat) :
    (({} : Ledger α)).Balances (Queue.empty overflow bound) where
  conserved := rfl
  departed := rfl
  numbered := by intro _ _ _ found; simp at found
  clear := rfl
  fits := Nat.zero_le _
  returned := by intro _ member; simp at member
  unfreed := by intro _ _ member; simp at member
  told := by intro _; rfl

end Ledger

end Handoff.Ring
