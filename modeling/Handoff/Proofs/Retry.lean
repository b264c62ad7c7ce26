import Handoff.Proofs.OneShot.Retry
import Handoff.Proofs.Ring.Retry
import Handoff.Proofs.Ring.Skipped

namespace Handoff

/-! Whether it helps to try again is told by the status of the failure alone, for rings and
one-shot channels alike.
-/

/-- Whatever has been done to a channel, a call that fails with a retryable status can succeed
later, after a call of the other end, and a call that fails with another one never does.  That
an element was missed happens only between two threads, and there is another one then. -/
theorem retryable_iff_can_succeed [Nonempty α] {overflow : Overflow} {requested : Nat}
    {created : Ring.Channel.Step α Unit}
    (made : Ring.Channel.create overflow requested = .ok created) :
    (∀ calls call status,
      ((created.state.after calls).call call).result.upshot = .failed status →
        ((created.state.after calls).call call).state.Foretells call status) ∧
    (∀ calls call status,
      ((({} : OneShot.Channel α).after calls).call call).result.upshot = .failed status →
        ((({} : OneShot.Channel α).after calls).call call).state.Foretells call status) ∧
    ∀ moves,
      let run := (Ring.Interleaving.ofChannel created.state).follow moves
      run.accepted.size < Ring.Cursor.horizon →
        run.receiving = .idle (some (.error .skipped)) →
          (Failure.status Ring.TryReceiveError.skipped).isRetryable = true ∧
            ∃ count ≤ 3, ∃ item,
              (Ring.Interleaving.stepsOfSender count run).receiveAlone.receiving =
                .idle (some (.ok item)) := by
  refine ⟨fun calls _ _ failed => Ring.Channel.foretells_after made calls failed, ?_, ?_⟩
  · intro calls _ _ failed
    exact (OneShot.Channel.recalls_new.after calls).foretells failed
  · intro moves run few skipped
    exact ⟨rfl, Ring.Channel.received_after_skipped made moves few skipped⟩

/-- A full ring that is then abandoned, a one-shot channel that is asked too early, and a ring
for one element that is replaced while it is being received. -/
theorem full_abandoned_early_overtaken :
    let ring := Ring.Channel.ofSize .wait 2
    let full := ring.after [.act (.trySend 1)]
    let abandoned := ring.after [.act (.trySend 1), .act .dropReceiver]
    let overtaken := (Ring.Interleaving.ofChannel (Ring.Channel.ofSize .overwrite 2)).follow
      (.startSend 7 :: List.replicate 4 .stepSender ++ .startReceive :: .stepReceiver ::
        .stepReceiver :: .startSend 8 :: List.replicate 6 .stepSender ++ [.stepReceiver])
    (full.call (.act (.trySend 2))).state.Foretells (.act (.trySend 2)) .channelFull ∧
      (abandoned.call (.send 2 [])).state.Foretells (.send 2 []) .channelClosed ∧
      (({} : OneShot.Channel Nat).call (.act .tryReceive)).state.Foretells (.act .tryReceive)
        .channelEmpty ∧
      ∃ count ≤ 3, ∃ item,
        (Ring.Interleaving.stepsOfSender count overtaken).receiveAlone.receiving =
          .idle (some (.ok item)) := by
  intro ring full abandoned overtaken
  obtain ⟨rings, channels, -⟩ := @retryable_iff_can_succeed Nat _ .wait 2
    ⟨(), ring, [.noted (.ringCreated 2 2 false)]⟩ rfl
  obtain ⟨-, -, threads⟩ := @retryable_iff_can_succeed Nat _ .overwrite 2
    ⟨(), .ofSize .overwrite 2, [.noted (.ringCreated 2 2 true)]⟩ rfl
  exact ⟨rings [.act (.trySend 1)] (.act (.trySend 2)) .channelFull (by decide +kernel),
    rings [.act (.trySend 1), .act .dropReceiver] (.send 2 []) .channelClosed (by decide +kernel),
    channels [] (.act .tryReceive) .channelEmpty (by decide +kernel),
    (threads _ (by decide +kernel) rfl).2⟩

end Handoff
