import Mathlib.Data.List.Induction

namespace Handoff

/-! Looking back in a run for the move that brought something about. -/

variable {σ : Type u} {μ : Type v} {step : σ → μ → σ} {start : σ}

/-- What holds at the end of a run, but not at its start, came about with some move and has
held ever since. -/
theorem exists_last_change (holds : σ → Prop) (moves : List μ) (before : ¬holds start)
    (after : holds (moves.foldl step start)) :
    ∃ early next late, moves = early ++ next :: late ∧ ¬holds (early.foldl step start) ∧
      ∀ middle rest, late = middle ++ rest →
        holds ((early ++ next :: middle).foldl step start) := by
  induction moves using List.reverseRecOn with
  | nil => exact absurd after before
  | append_singleton moves last ih =>
      by_cases already : holds (moves.foldl step start)
      · obtain ⟨early, next, late, rfl, changed, since⟩ := ih already
        refine ⟨early, next, late ++ [last], by simp, changed, ?_⟩
        intro middle rest split
        obtain rfl | ⟨rest, final, rfl⟩ := rest.eq_nil_or_concat
        · rw [List.append_nil] at split
          rw [← split]
          simpa using after
        · rw [List.concat_eq_append, ← List.append_assoc] at split
          exact since middle rest (List.append_inj_left' split rfl)
      · refine ⟨moves, last, [], rfl, already, ?_⟩
        intro middle rest split
        obtain ⟨rfl, rfl⟩ := List.append_eq_nil_iff.mp split.symm
        exact after

theorem exists_change (holds : σ → Prop) (moves : List μ) (before : ¬holds start)
    (after : holds (moves.foldl step start)) :
    ∃ early next late, moves = early ++ next :: late ∧ ¬holds (early.foldl step start) ∧
      holds (step (early.foldl step start) next) := by
  obtain ⟨early, next, late, split, unchanged, since⟩ := exists_last_change holds moves before after
  refine ⟨early, next, late, split, unchanged, ?_⟩
  have changed := since [] late rfl
  rwa [List.foldl_append] at changed

end Handoff
