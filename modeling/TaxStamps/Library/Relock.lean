import Mathlib.Logic.Basic

/-!
# Rows read before they are locked

A session keeps one copy of each row it has read. Reading the row again under a
lock returns that copy, not the stored row. When the session writes the row it
sends only the columns whose value differs from what it first read; every other
column keeps what is stored.
-/

namespace Relock

variable {κ : Type} [DecidableEq κ]

/-- A column after an update by a session that read `seen` and assigned
`assigned`. -/
def column (seen assigned stored : κ) : κ := if assigned = seen then stored else assigned

/-- A session whose copy is current writes what it assigned. -/
@[simp] theorem column_current (seen assigned : κ) : column seen assigned seen = assigned := by
  rw [column]
  split
  case isTrue same => exact same.symm
  case isFalse => rfl

/-- A column that was not assigned keeps its stored value. -/
@[simp] theorem column_unassigned (seen stored : κ) : column seen seen stored = stored := by
  simp [column]

/-- An assignment that changes the copy is written. -/
theorem column_assigned {seen assigned : κ} (changed : assigned ≠ seen) (stored : κ) :
    column seen assigned stored = assigned := if_neg changed

end Relock
