import Handoff.Status

namespace Handoff

/-! What a status has to say about the time to come. -/

/-- What an attempt comes to.  An end that is gone cannot even try. -/
inductive Upshot where
  | succeeded
  | failed (status : Status)
  | untried
deriving DecidableEq

/-- The status of a call that has failed tells whether it can succeed later.  What the calls to
come are allowed to be, whether the end that has failed is still there after them, and what a
call comes to that follows them depends on the channel. -/
structure Status.Foretells (status : Status) (possible alive : List κ → Prop)
    (upshot : List κ → κ → Upshot) (call : κ) (repeats : κ → Prop) : Prop where
  truthful : status.isRetryable = true ↔
    ∃ further, possible further ∧ upshot further call = .succeeded
  /-- The call that is made again may differ in what it is given. -/
  passes : status.isRetryable = true →
    ∃ further, possible further ∧ ∀ again, repeats again → upshot further again = .succeeded
  lasts : status.isRetryable = false → ∀ further, alive further →
    ∀ again, repeats again → upshot further again = .failed status

namespace Status.Foretells

variable {status : Status} {possible alive : List κ → Prop} {upshot : List κ → κ → Upshot}
  {call : κ} {repeats : κ → Prop} {further : List κ}

theorem of_passes (retryable : status.isRetryable = true) (itself : repeats call)
    (isPossible : possible further)
    (passes : ∀ again, repeats again → upshot further again = .succeeded) :
    status.Foretells possible alive upshot call repeats where
  truthful := iff_of_true retryable ⟨further, isPossible, passes call itself⟩
  passes _ := ⟨further, isPossible, passes⟩
  lasts final := by
    rw [retryable] at final
    cases final

theorem of_lasts (final : status.isRetryable = false) (itself : repeats call)
    (tried : ∀ further, upshot further call = .succeeded → alive further)
    (lasts : ∀ further, alive further →
      ∀ again, repeats again → upshot further again = .failed status) :
    status.Foretells possible alive upshot call repeats where
  truthful := by
    refine iff_of_false (Bool.eq_false_iff.mp final) ?_
    rintro ⟨further, -, succeeded⟩
    rw [lasts further (tried further succeeded) call itself] at succeeded
    cases succeeded
  passes retryable := by
    rw [final] at retryable
    cases retryable
  lasts _ := lasts

end Status.Foretells

end Handoff
