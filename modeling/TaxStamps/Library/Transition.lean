import Mathlib.Logic.Relation

/-!
# Invariants and crossings of a transition relation

A relation on states is iterated by its reflexive transitive closure. An
invariant is established once per step and then holds along every path. A
property that fails at the start of a path and holds at its end becomes true at
one of its steps; that step is where a history statement finds its witness.

Nothing here fixes what a state is or why a step is possible.
-/

namespace Transition

open Relation

universe u
variable {σ : Type u} {step : σ → σ → Prop}

/-- What every step preserves, every path preserves. -/
theorem invariant (holds : σ → Prop)
    (preserved : ∀ before after, holds before → step before after → holds after)
    {start finish : σ} (path : ReflTransGen step start finish) (initially : holds start) :
    holds finish := by
  induction path with
  | refl => exact initially
  | tail _ taken inductionHypothesis => exact preserved _ _ inductionHypothesis taken

/-- An invariant of one relation is available at every step of a second
invariant's proof. -/
theorem invariant_along (known holds : σ → Prop)
    (kept : ∀ before after, known before → step before after → known after)
    (preserved : ∀ before after, known before → holds before → step before after → holds after)
    {start finish : σ} (path : ReflTransGen step start finish)
    (knownInitially : known start) (initially : holds start) : holds finish := by
  have both : known finish ∧ holds finish := by
    refine invariant (fun state => known state ∧ holds state) ?_ path ⟨knownInitially, initially⟩
    intro before after ⟨knownBefore, holdsBefore⟩ taken
    exact ⟨kept before after knownBefore taken,
      preserved before after knownBefore holdsBefore taken⟩
  exact both.2

/-- A property that holds only at the end of a path has a step that
establishes it. The path is split at that step. -/
theorem crossing (property : σ → Prop) {start finish : σ}
    (path : ReflTransGen step start finish) (absent : ¬ property start)
    (present : property finish) :
    ∃ before after, ReflTransGen step start before ∧ ¬ property before ∧
      step before after ∧ property after ∧ ReflTransGen step after finish := by
  induction path with
  | refl => exact absurd present absent
  | tail prior taken inductionHypothesis =>
    rename_i middle last
    by_cases earlier : property middle
    · obtain ⟨before, after, reached, fails, crossed, holds, remaining⟩ :=
        inductionHypothesis earlier
      exact ⟨before, after, reached, fails, crossed, holds, remaining.tail taken⟩
    · exact ⟨middle, last, prior, earlier, taken, present, ReflTransGen.refl⟩

end Transition
