import Mathlib.Data.List.Basic

/-!
# Unwinding

Two runs of one deterministic machine, the second with extra actions inserted
anywhere. If the extra actions preserve a relation between the states from the
second side, and every action preserves it and answers alike on both sides, the
two runs give the same answers to the actions they share and end in related
states.

A computation that may fail is related through its outcome: both sides fail with
the same error, or both succeed with related results.
-/

namespace Unwinding

section Insertion

universe u v
variable {α : Type u} {β : Type v} {extra : α → Prop} {plain padded : List α}

/-- The second list is the first with extra items inserted anywhere. -/
inductive Padded (extra : α → Prop) : List α → List α → Prop
  | nil : Padded extra [] []
  | keep {plain padded : List α} (item : α) (rest : Padded extra plain padded) :
    Padded extra (item :: plain) (item :: padded)
  | insert {plain padded : List α} (item : α) (added : extra item) (rest : Padded extra plain padded) :
    Padded extra plain (item :: padded)

namespace Padded

/-- A list is itself with nothing inserted. -/
theorem refl (items : List α) : Padded extra items items := by
  induction items with
  | nil => exact .nil
  | cons item rest inductionHypothesis => exact .keep item inductionHypothesis

/-- Both lists grow by the same items. -/
theorem append (inserted : Padded extra plain padded) (items : List α) :
    Padded extra (plain ++ items) (padded ++ items) := by
  induction inserted with
  | nil => exact refl items
  | keep item _ inductionHypothesis => exact .keep item inductionHypothesis
  | insert item added _ inductionHypothesis => exact .insert item added inductionHypothesis

/-- The second list grows by an extra item. -/
theorem append_extra (inserted : Padded extra plain padded) {item : α} (added : extra item) :
    Padded extra plain (padded ++ [item]) := by
  induction inserted with
  | nil => exact .insert item added .nil
  | keep kept _ inductionHypothesis => exact .keep kept inductionHypothesis
  | insert other addedOther _ inductionHypothesis => exact .insert other addedOther inductionHypothesis

/-- A filter that no extra item passes sees the same items. -/
theorem filter_eq (inserted : Padded extra plain padded) {passes : α → Bool}
    (unseen : ∀ item, extra item → passes item = false) : padded.filter passes = plain.filter passes := by
  induction inserted with
  | nil => rfl
  | keep item _ inductionHypothesis => rw [List.filter_cons, List.filter_cons, inductionHypothesis]
  | insert item added _ inductionHypothesis =>
    rw [List.filter_cons_of_neg (by simp [unseen item added]), inductionHypothesis]

end Padded

end Insertion

section Machine

universe u v w
variable {action : Type u} {answer : Type v} {σ : Type w}
  (step : action → σ → answer × σ) (extra : action → Prop)

/-- The actions of a run with their answers. -/
def trace : List action → σ → List (action × answer)
  | [], _ => []
  | act :: rest, state => (act, (step act state).1) :: trace rest (step act state).2

/-- The state after a run. -/
def finish : List action → σ → σ
  | [], state => state
  | act :: rest, state => finish rest (step act state).2

/-- The conditions on one action under which two runs unwind together. -/
structure Unwinds (alike : σ → σ → Prop) : Prop where
  consistent : ∀ act left right, alike left right →
    (step act left).1 = (step act right).1 ∧ alike (step act left).2 (step act right).2
  respects : ∀ act left right, extra act → alike left right → alike left (step act right).2

variable {step extra}

/-- The run with the extra actions answers the others as the run without them. -/
theorem Unwinds.run {alike : σ → σ → Prop} (unwinds : Unwinds step extra alike)
    {plain padded : List action} (inserted : Padded extra plain padded) {left right : σ}
    (related : alike left right) :
    Padded (fun entry => extra entry.1) (trace step plain left) (trace step padded right) ∧
      alike (finish step plain left) (finish step padded right) := by
  induction inserted generalizing left right with
  | nil => exact ⟨.nil, related⟩
  | keep act _ inductionHypothesis =>
    obtain ⟨same, after⟩ := unwinds.consistent act left right related
    obtain ⟨answers, final⟩ := inductionHypothesis after
    constructor
    · rw [trace, trace, same]
      exact .keep _ answers
    · exact final
  | insert act added _ inductionHypothesis =>
    obtain ⟨answers, final⟩ := inductionHypothesis (unwinds.respects act left right added related)
    exact ⟨.insert _ added answers, final⟩

end Machine

section Failure

universe u
variable {ε α β : Type u}

/-- Both computations fail with one error, or succeed with related results. -/
inductive Coupled (rel : α → α → Prop) : Except ε α → Except ε α → Prop
  | ok {left right : α} (related : rel left right) : Coupled rel (.ok left) (.ok right)
  | error (problem : ε) : Coupled rel (.error problem) (.error problem)

namespace Coupled

variable {rel : α → α → Prop}

/-- A computation is coupled with itself. -/
theorem refl (computation : Except ε α) (reflexive : ∀ result, rel result result) :
    Coupled rel computation computation := by
  cases computation with
  | ok result => exact .ok (reflexive result)
  | error problem => exact .error problem

/-- A computation that both sides share. -/
theorem same (computation : Except ε α) : Coupled Eq computation computation :=
  refl computation (fun _ => rfl)

/-- Coupled computations go on coupled, if they do so from related results. -/
theorem bind {next : β → β → Prop} {left right : Except ε α} {leftNext rightNext : α → Except ε β}
    (coupled : Coupled rel left right)
    (continued : ∀ first second, rel first second → Coupled next (leftNext first) (rightNext second)) :
    Coupled next (left >>= leftNext) (right >>= rightNext) := by
  cases coupled with
  | ok related => exact continued _ _ related
  | error problem => exact .error problem

/-- Both sides continue from one shared result. -/
theorem bind_same {next : β → β → Prop} {left right : α → Except ε β} (computation : Except ε α)
    (continued : ∀ result, Coupled next (left result) (right result)) :
    Coupled next (computation >>= left) (computation >>= right) :=
  (same computation).bind (fun first _ equal => equal ▸ continued first)

end Coupled

end Failure

end Unwinding
