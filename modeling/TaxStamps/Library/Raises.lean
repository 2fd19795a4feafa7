import Mathlib.Logic.Basic

/-!
# Which exceptions a computation raises

A computation raises only exceptions of some kind. A sequence does so exactly
when its first part does and every continuation does that the first part reaches.
-/

namespace Raises

universe u
variable {ε : Type u} {α β : Type u} {kind : ε → Prop}

/-- Every exception of the computation is of the kind. -/
def Only (kind : ε → Prop) (result : Except ε α) : Prop := ∀ problem, result = .error problem → kind problem

/-- A value raises nothing. -/
theorem only_ok (value : α) : Only kind (.ok value : Except ε α) := by
  intro problem absurdity
  cases absurdity

/-- What is raised is of the kind. -/
theorem only_error {problem : ε} : Only kind (.error problem : Except ε α) ↔ kind problem := by
  constructor
  · exact fun only => only problem rfl
  · rintro holds other same
    exact Except.error.inj same ▸ holds

/-- The rule of a sequence. -/
theorem only_bind {first : Except ε α} {next : α → Except ε β} :
    Only kind (first >>= next) ↔ Only kind first ∧ ∀ value, first = .ok value → Only kind (next value) := by
  cases first with
  | error problem =>
    have stopped : ((Except.error problem : Except ε α) >>= next) = .error problem := rfl
    rw [stopped, only_error, only_error]
    exact ⟨fun holds => ⟨holds, fun _ absurdity => by cases absurdity⟩, fun both => both.1⟩
  | ok value =>
    have continued : ((Except.ok value : Except ε α) >>= next) = next value := rfl
    rw [continued]
    constructor
    · refine fun only => ⟨only_ok value, fun other same => ?_⟩
      exact Except.ok.inj same ▸ only
    · exact fun both => both.2 value rfl

/-- A sequence whose first part raises nothing else. -/
theorem only_next {first : Except ε α} {next : α → Except ε β} (only : Only kind first) :
    Only kind (first >>= next) ↔ ∀ value, first = .ok value → Only kind (next value) := by
  rw [only_bind]
  exact ⟨fun both => both.2, fun each => ⟨only, each⟩⟩

/-- A value that a sequence returns comes from a value of its first part. -/
theorem bind_ok {first : Except ε α} {next : α → Except ε β} {result : β} :
    (first >>= next) = .ok result ↔ ∃ value, first = .ok value ∧ next value = .ok result := by
  cases first <;> simp [bind, Except.bind]

end Raises
