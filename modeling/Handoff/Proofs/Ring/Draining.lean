import Handoff.Proofs.Ring.Readiness

namespace Handoff.Ring

/-! A drain that the sender feeds.  After every element that is taken there is room for the
next value, and as long as values come the queue does not run empty.  So the drain yields what
was in the queue and then what it is fed, and nothing is lost on the way.
-/

/-- What happens while `taken` elements are taken and at most `fed` values are sent. -/
def drainLog (taken fed : Nat) : List (Event α) :=
  (List.range taken).flatMap fun index =>
    .notified .sender :: if index < fed then [.notified .receiver] else []

theorem drainLog_succ (taken fed : Nat) :
    (drainLog (taken + 1) fed : List (Event α)) =
      .notified .sender ::
        ((if 0 < fed then [.notified .receiver] else []) ++ drainLog taken (fed - 1)) := by
  have shift (index : Nat) : index + 1 < fed ↔ index < fed - 1 := by omega
  simp [drainLog, List.range_succ_eq_map, List.flatMap_map, shift]

theorem receiverNotices_drainLog (taken fed : Nat) :
    receiverNotices (drainLog taken fed : List (Event α)) = min taken fed := by
  induction taken generalizing fed with
  | zero => simp [drainLog, receiverNotices]
  | succ taken ih =>
      rw [drainLog_succ, receiverNotices_cons_sender, receiverNotices_append, ih]
      split
      · rw [receiverNotices_receiver]
        omega
      · simp only [receiverNotices, List.countP_nil]
        omega

namespace Queue

variable {queue : Queue α} {item : α} {rest : List α}

/-- The queue when `taken` elements were taken and a value was fed after each, if there was
one. -/
def fedWhile (queue : Queue α) (taken : Nat) (feed : List α) : Queue α :=
  { queue with
    departed := queue.departed + taken
    items := (queue.items ++ feed.take taken).drop taken }

theorem accepted_fedWhile (queue : Queue α) {taken : Nat} {feed : List α}
    (enough : taken ≤ queue.items.length + feed.length) :
    (queue.fedWhile taken feed).accepted = queue.accepted + min taken feed.length := by
  simp only [accepted, fedWhile, List.length_drop, List.length_append, List.length_take]
  omega

theorem fedWhile_nil_succ (items : queue.items = item :: rest) (taken : Nat) :
    queue.fedWhile (taken + 1) [] = queue.removeOldest.fedWhile taken [] := by
  simp [fedWhile, removeOldest, items]
  omega

theorem fedWhile_cons_succ (items : queue.items = item :: rest) (taken : Nat) (value : α)
    (others : List α) :
    queue.fedWhile (taken + 1) (value :: others) =
      (queue.removeOldest.append value).fedWhile taken others := by
  simp [fedWhile, removeOldest, append, items]
  omega

/-- A drain that ends in this way took all that it could, in the order of the queue and then of
the feed. -/
structure Feeds (queue : Queue α) (count : Nat) (feed : List α) (ended : Step α (List α)) :
    Prop where
  result : ended.result = (queue.items ++ feed).take count
  state : ended.state = queue.fedWhile ended.result.length feed
  log : ended.log = drainLog ended.result.length feed.length

/-- The queue only runs empty when there is nothing to feed it with. -/
theorem drainFor_feeds (alive : queue.receiverAlive = true)
    (fits : queue.items.length ≤ queue.bound) (count : Nat) (feed : List α)
    (feeds : queue.senderAlive = true ∨ feed = []) (stocked : queue.items ≠ [] ∨ feed = []) :
    queue.Feeds count feed (drainFor count queue feed) := by
  induction count generalizing queue feed with
  | zero => exact ⟨rfl, by simp [drainFor, fedWhile], rfl⟩
  | succ count ih =>
      cases items : queue.items with
      | nil =>
          obtain rfl : feed = [] := stocked.resolve_left fun some => some items
          rw [drainFor_of_nil _ items]
          refine ⟨by simp [items], ?_, rfl⟩
          obtain ⟨bound, overflow, departed, held, sender, receiver⟩ := queue
          cases items
          rfl
      | cons item rest =>
          have room := removeOldest_room items fits
          cases feed with
          | nil =>
              rw [drainFor_of_cons count items rfl]
              obtain ⟨result, state, log⟩ :=
                @ih queue.removeOldest alive (Nat.le_of_lt room) [] (.inr rfl) (.inr rfl)
              refine ⟨?_, ?_, ?_⟩
              · refine (congrArg (item :: ·) result).trans ?_
                simp [removeOldest, items]
              · rw [List.length_cons, fedWhile_nil_succ items]
                exact state
              · rw [List.length_cons, drainLog_succ]
                exact congrArg _ log
          | cons value others =>
              have sender : queue.removeOldest.senderAlive = true :=
                feeds.resolve_right (List.cons_ne_nil _ _)
              have fed : queue.removeOldest.sendNext (value :: others) =
                  ⟨(), queue.removeOldest.append value, [.notified .receiver]⟩ := by
                rw [sendNext, if_pos sender, @trySend_of_room _ queue.removeOldest alive room]
                rfl
              rw [drainFor_of_cons count items fed]
              obtain ⟨result, state, log⟩ :=
                @ih (queue.removeOldest.append value) alive
                  (by simpa [append, Nat.succ_le_iff] using room) others (.inl sender)
                  (.inl (by simp [append]))
              refine ⟨?_, ?_, ?_⟩
              · refine (congrArg (item :: ·) result).trans ?_
                simp [removeOldest, append, items]
              · rw [List.length_cons, fedWhile_cons_succ items]
                exact state
              · rw [List.length_cons, drainLog_succ]
                exact congrArg _ (congrArg _ log)

/-- Without a sender nothing is fed. -/
theorem drainFor_without_sender (gone : queue.senderAlive = false) (count : Nat) (feed : List α) :
    drainFor count queue feed = drainFor count queue [] := by
  induction count generalizing queue feed with
  | zero => rfl
  | succ count ih =>
      cases items : queue.items with
      | nil => rw [drainFor_of_nil _ items, drainFor_of_nil _ items]
      | cons item rest =>
          have silent (feed : List α) := @sendNext_of_sender_gone _ queue.removeOldest gone feed
          rw [drainFor_of_cons count items (silent feed), drainFor_of_cons count items (silent []),
            @ih queue.removeOldest gone feed.tail, List.tail_nil]

/-- Whatever it is fed, a drain without a limit takes at least what is in the queue, and leaves
nothing. -/
theorem drain_exhausts (alive : queue.receiverAlive = true)
    (fits : queue.items.length ≤ queue.bound) (feed : List α) :
    queue.items.length ≤ (queue.drain none feed).result.items.length ∧
      (queue.drain none feed).state.items = [] := by
  rw [drain, Option.getD_none, Nat.min_self]
  by_cases fed : queue.senderAlive = true ∧ queue.items ≠ []
  · have feeds := drainFor_feeds alive fits (queue.items.length + feed.length) feed
      (.inl fed.1) (.inl fed.2)
    rw [feeds.state, feeds.result]
    simp [fedWhile]
  · cases items : queue.items with
    | nil =>
        rw [drainFor_of_nil _ items]
        exact ⟨Nat.le_refl _, items⟩
    | cons item rest =>
        have gone : queue.senderAlive = false := by simpa [items] using fed
        have feeds := drainFor_feeds alive fits ((item :: rest).length + feed.length) []
          (.inr rfl) (.inr rfl)
        rw [drainFor_without_sender gone, feeds.state, feeds.result]
        simp [fedWhile, items]

end Queue

namespace Channel

variable {channel : Channel α} {queue : Queue α}

/-- What a drain of at most `limit` elements comes to when it is fed and does not run empty
before the feed does. -/
structure Yields (contents : List α) (limit : Nat) (feed : List α)
    (drained : Step α (Drained α)) : Prop where
  items : drained.result.items = (contents ++ feed).take limit
  rest : drained.state.contents =
    (contents ++ feed.take drained.result.items.length).drop drained.result.items.length
  log : drained.log = drainLog drained.result.items.length feed.length

/-- A drain of the channel yields what that of the queue does. -/
theorem yields_of_feeds {limit : Nat} {feed fed : List α}
    (mirrors : Mirrors Holds (channel.drain (some limit) feed) (queue.drain (some limit) feed))
    (short : fed.length ≤ feed.length)
    (feeds : queue.Feeds (min limit (queue.items.length + feed.length)) fed
      (Queue.drainFor (min limit (queue.items.length + feed.length)) queue feed)) :
    Yields queue.items limit fed (channel.drain (some limit) feed) := by
  have items : (channel.drain (some limit) feed).result.items =
      (Queue.drainFor (min limit (queue.items.length + feed.length)) queue feed).result :=
    congrArg Drained.items mirrors.result
  refine ⟨?_, ?_, ?_⟩
  · rw [items, feeds.result, List.take_eq_take_iff, List.length_append]
    omega
  · rw [mirrors.state.contents_eq, items]
    exact congrArg Queue.items feeds.state
  · rw [mirrors.log, items]
    exact feeds.log

/-- What a drain has not yet sent. -/
theorem run_feed (count : Nat) (drain : Drain α) :
    drain.items.size ≤ (Drain.run count drain).items.size ∧
      (Drain.run count drain).feed =
        drain.feed.drop ((Drain.run count drain).items.size - drain.items.size) := by
  induction count generalizing drain with
  | zero => simp [Drain.run]
  | succ count ih =>
      obtain ⟨more, feed⟩ := ih drain.next
      cases taken : drain.channel.takeOldest.result with
      | error absence =>
          have next : drain.next = { drain with channel := drain.channel.takeOldest.state } := by
            rw [Drain.next, taken]
          rw [next] at more feed
          rw [Drain.run, next]
          exact ⟨more, feed⟩
      | ok value =>
          have size : drain.next.items.size = drain.items.size + 1 := by
            rw [Drain.next, taken]
            exact Array.size_push value
          have tail : drain.next.feed = drain.feed.tail := by
            rw [Drain.next, taken]
          rw [Drain.run, feed, tail, List.drop_tail, size]
          exact ⟨by omega, congrArg (drain.feed.drop ·) (by omega)⟩

/-- There is an element to take, and then room for the next value. -/
structure Accepts (point : Drain α) (value : α) : Prop where
  taken : ∃ item, point.channel.takeOldest.result = .ok item
  next : point.feed.head? = some value
  result : (point.channel.takeOldest.state.trySend value).result = .ok ()
  log : (point.channel.takeOldest.state.trySend value).log = [.notified .receiver]

theorem Holds.accepts (holds : channel.Holds queue) (sender : queue.senderAlive = true)
    (alive : queue.receiverAlive = true) (stocked : queue.items ≠ []) {feed : List α}
    {index : Nat} {value : α} (given : feed[index]? = some value)
    (few : queue.accepted + index < Cursor.horizon) :
    Accepts (Drain.run index ⟨channel, feed, #[], #[]⟩) value := by
  have within : index < feed.length := (List.getElem?_eq_some_iff.mp given).1
  have positive := List.length_pos_iff.mpr stocked
  obtain ⟨result, state, log⟩ :=
    Queue.drainFor_feeds alive holds.fits index feed (.inl sender) (.inl stocked)
  have length : (Queue.drainFor index queue feed).result.length = index := by
    rw [result, List.length_take, List.length_append]
    omega
  rw [length] at state log
  have mirrors := holds.drainFor alive index feed (.inr (by
    rw [log, receiverNotices_drainLog]
    omega))
  obtain ⟨ended, items, -⟩ := run_eq_drainFor index ⟨channel, feed, #[], #[]⟩
  have point := mirrors.state
  rw [state, ← ended] at point
  obtain ⟨item, rest, more⟩ := List.exists_cons_of_length_pos (by
    simp only [Queue.fedWhile, List.length_drop, List.length_append, List.length_take]
    omega : 0 < (queue.fedWhile index feed).items.length)
  obtain ⟨oldest, -, taken⟩ := point.takeOldest_of_cons more
  have room := Queue.removeOldest_room more point.fits
  have sent := taken.trySend sender value fun _ => by
    rw [Queue.accepted_removeOldest more, queue.accepted_fedWhile (by omega)]
    omega
  rw [@Queue.trySend_of_room _ (queue.fedWhile index feed).removeOldest alive room] at sent
  refine ⟨⟨item, oldest⟩, ?_, sent.result, sent.log⟩
  have size : (Drain.run index ⟨channel, feed, #[], #[]⟩).items.size = index := by
    rw [← Array.length_toList, items, mirrors.result, List.nil_append, length]
  rw [(run_feed index _).2, size, List.head?_drop]
  exact given

/-- How many values will have been accepted, as the books of the run have it. -/
theorem few_of_ledger {ledger : Ledger α} (balances : ledger.Balances queue)
    (alive : channel.receiverAlive = true) {limit : Option Nat} {feed : List α}
    (few : (ledger.readTurns (channel.turns [.act (.drain limit feed)])).accepted.length <
      Cursor.horizon) :
    queue.accepted + min (receiverNotices (channel.drain limit feed).log) feed.length <
      Cursor.horizon := by
  simpa [Channel.turns, Ledger.readTurns, Ledger.readTurn, Channel.call, asEntries,
    Channel.perform, ifReceiver, alive, Ledger.read_events, Ledger.close, Ledger.book,
    balances.clear, balances.accepted_length, Action.acceptedBy] using few

theorem Holds.drain_of_nil (holds : channel.Holds queue) (alive : queue.receiverAlive = true)
    (items : queue.items = []) (limit : Option Nat) (feed : List α) :
    (channel.drain limit feed).result.items = [] ∧ (channel.drain limit feed).state = channel ∧
      (channel.drain limit feed).log = [] := by
  obtain ⟨ended, yielded, log⟩ :=
    run_eq_drainFor (Drain.bound channel limit feed) ⟨channel, feed, #[], #[]⟩
  rw [holds.drainFor_of_nil alive items] at ended yielded log
  exact ⟨yielded, ended, log⟩

/-- How a channel is drained of at most `limit` elements while its sender is fed.  Every point
of a drain is the end of one with a lower limit, or with a shorter feed, and `hinted` says that
the hint there is not too high, whatever it is fed from there on until it is exhausted. -/
structure Drains (channel : Channel α) (limit : Nat) (feed : List α) (few : List α → Prop) :
    Prop where
  fed : channel.senderAlive = true → channel.contents ≠ [] →
    Yields channel.contents limit feed (channel.drain (some limit) feed)
  accepts : channel.senderAlive = true → channel.contents ≠ [] →
    ∀ index < (channel.drain (some limit) feed).result.items.length, ∀ value,
      feed[index]? = some value → Accepts (Drain.run index ⟨channel, feed, #[], #[]⟩) value
  bare : channel.contents = [] →
    (channel.drain (some limit) feed).result.items = [] ∧
      (channel.drain (some limit) feed).state = channel ∧
      (channel.drain (some limit) feed).log = []
  left : channel.senderAlive = false →
    Yields channel.contents limit [] (channel.drain (some limit) feed)
  hinted : ∀ more, few more →
    let exhausted := (channel.drain (some limit) feed).state.drain none more
    (channel.drain (some limit) feed).result.hintAfter ≤ exhausted.result.items.length ∧
      exhausted.state.contents = []

theorem after_drain (alive : channel.receiverAlive = true) (limit : Option Nat) (feed : List α) :
    channel.after [.act (.drain limit feed)] = (channel.drain limit feed).state := by
  refine (?_ : (channel.perform (.drain limit feed)).state = _)
  rw [perform, ifReceiver, if_pos alive]
  rfl

/-- A drain after any calls does to the channel what it does to the queue that the channel
holds. -/
theorem drained_after_create {overflow : Overflow} {requested : Nat} {created : Step α Unit}
    (made : create overflow requested = .ok created) (calls : List (Call α))
    (limit : Option Nat) (feed : List α)
    (few : (Ledger.ofTurns (created.state.turns
      (calls ++ [.act (.drain limit feed)]))).accepted.length < Cursor.horizon)
    (alive : (created.state.after calls).receiverAlive = true) :
    ∃ queue, (created.state.after calls).Holds queue ∧
      queue.accepted + min (receiverNotices ((created.state.after calls).drain limit feed).log)
        feed.length < Cursor.horizon ∧
      Mirrors Holds ((created.state.after calls).drain limit feed) (queue.drain limit feed) := by
  obtain ⟨bound, -, -, -, represents, balances⟩ :=
    turns_of_create made calls (Nat.le_of_lt (few_before few))
  have there := represents.receiverAlive.symm.trans alive
  have holds := @Represents.holds_of_alive _ _ _ .receiver represents there
  rw [turns_append, Ledger.ofTurns_append] at few
  have accepted := few_of_ledger balances alive few
  exact ⟨_, holds, accepted, holds.drain there limit feed (.inl (Nat.le_of_lt accepted))⟩

/-- Draining a channel while it is fed loses nothing, rejects nothing and overwrites nothing. -/
theorem fed_drain_loses_nothing {overflow : Overflow} {requested : Nat} {created : Step α Unit}
    (made : create overflow requested = .ok created) (calls : List (Call α)) (limit : Nat)
    (feed : List α)
    (few : (Ledger.ofTurns (created.state.turns
      (calls ++ [.act (.drain (some limit) feed)]))).accepted.length < Cursor.horizon)
    (alive : (created.state.after calls).receiverAlive = true) :
    (created.state.after calls).Drains limit feed fun more =>
      (Ledger.ofTurns (created.state.turns
        (calls ++ [.act (.drain (some limit) feed), .act (.drain none more)]))).accepted.length <
          Cursor.horizon := by
  obtain ⟨queue, holds, accepted, mirrors⟩ :=
    drained_after_create made calls (some limit) feed few alive
  have there := holds.receiverAlive.symm.trans alive
  have contents := holds.contents_eq
  have yields (sender : (created.state.after calls).senderAlive = true)
      (stocked : (created.state.after calls).contents ≠ []) :
      Yields (created.state.after calls).contents limit feed
        ((created.state.after calls).drain (some limit) feed) := by
    rw [contents] at stocked ⊢
    exact yields_of_feeds mirrors (Nat.le_refl _) (Queue.drainFor_feeds there holds.fits _ feed
      (.inl (holds.senderAlive.symm.trans sender)) (.inl stocked))
  refine ⟨yields, fun sender stocked index within value given => ?_, fun bare => ?_,
    fun gone => ?_, fun more fewer => ?_⟩
  · have offered : index < feed.length := (List.getElem?_eq_some_iff.mp given).1
    rw [(yields sender stocked).log, receiverNotices_drainLog] at accepted
    exact holds.accepts (holds.senderAlive.symm.trans sender) there (contents ▸ stocked) given
      (by omega)
  · exact holds.drain_of_nil there (contents ▸ bare) (some limit) feed
  · have feeds := Queue.drainFor_feeds there holds.fits
      (min limit (queue.items.length + feed.length)) [] (.inr rfl) (.inr rfl)
    rw [← Queue.drainFor_without_sender (holds.senderAlive.symm.trans gone)] at feeds
    rw [contents]
    exact yields_of_feeds mirrors (Nat.zero_le _) feeds
  · have reached : created.state.after (calls ++ [.act (.drain (some limit) feed)]) =
        ((created.state.after calls).drain (some limit) feed).state := by
      rw [after_append, after_drain alive]
    have still : (queue.drain (some limit) feed).state.receiverAlive = true :=
      (Queue.drainFor_fixed (Queue.alive_fixed .receiver) _ queue feed).trans there
    obtain ⟨later, stands, -, again⟩ := drained_after_create made
      (calls ++ [.act (.drain (some limit) feed)]) none more (by rwa [List.append_assoc])
      (by rw [reached, mirrors.state.receiverAlive, still])
    rw [reached] at stands again
    have length : ((created.state.after calls).drain (some limit) feed).result.hintAfter =
        later.items.length := stands.length_eq
    have listens : later.receiverAlive = true := by
      rw [← stands.receiverAlive, mirrors.state.receiverAlive, still]
    dsimp only
    rw [length, again.result, again.state.contents_eq]
    exact Queue.drain_exhausts listens stands.fits more

/-- A full ring is fed while it is drained, and is full again in the end. -/
theorem four_slots_fed :
    let calls : List (Call Nat) := [.act (.trySend 1), .act (.trySend 2), .act (.trySend 3)]
    let drained := ((ofSize .wait 4).after calls).drain (some 4) [4, 5, 6, 7]
    drained.result.items = [1, 2, 3, 4] ∧ drained.state.contents = [5, 6, 7] ∧
      drained.result.hintAfter ≤ (drained.state.drain none [8]).result.items.length := by
  intro calls drained
  have drains := @fed_drain_loses_nothing Nat .wait 4
    ⟨(), ofSize .wait 4, [.noted (.ringCreated 4 4 false)]⟩ rfl calls 4 [4, 5, 6, 7]
    (by decide +kernel) (by decide +kernel)
  have yields := drains.fed (by decide +kernel) (by decide +kernel)
  have items : drained.result.items = [1, 2, 3, 4] := yields.items.trans (by decide +kernel)
  refine ⟨items, yields.rest.trans ?_, (drains.hinted [8] (by decide +kernel)).1⟩
  decide +kernel

end Channel

end Handoff.Ring
