import Mathlib.Algebra.BigOperators.Group.List.Basic
import Mathlib.Data.List.Basic
import Mathlib.Data.List.Induction
import Mathlib.Data.List.Nodup
import Mathlib.Tactic.Abel

/-!
# Tables as lists of rows

A row's identifier is its position. Inserting appends, so an identifier is
never reused and no insertion moves a stored row; an update rewrites one
position. `select` is a query that takes the first matching row together with
its identifier. A keyed update of every matching row is a map.
-/

namespace Rows

universe u
variable {ρ : Type u}

/-- The first row that matches, with its identifier. -/
def select (matches? : ρ → Bool) : List ρ → Option (Nat × ρ)
  | [] => none
  | row :: rest =>
    if matches? row then some (0, row)
    else (select matches? rest).map (fun found => (found.1 + 1, found.2))

/-- A selected row is stored at its identifier and matches. -/
theorem select_some {matches? : ρ → Bool} {rows : List ρ} {id : Nat} {row : ρ}
    (found : select matches? rows = some (id, row)) :
    rows[id]? = some row ∧ matches? row = true := by
  induction rows generalizing id with
  | nil => simp [select] at found
  | cons first rest inductionHypothesis =>
    by_cases here : matches? first = true
    · have same : (0, first) = (id, row) := by simpa [select, here] using found
      obtain ⟨rfl, rfl⟩ := Prod.mk.inj same
      exact ⟨rfl, here⟩
    · simp only [select, here, Bool.false_eq_true, if_false, Option.map_eq_some_iff] at found
      obtain ⟨⟨position, other⟩, later, same⟩ := found
      obtain ⟨rfl, rfl⟩ := Prod.mk.inj same
      simpa using inductionHypothesis later

/-- Nothing is selected exactly when no row matches. -/
theorem select_none {matches? : ρ → Bool} {rows : List ρ} :
    select matches? rows = none ↔ ∀ row ∈ rows, matches? row = false := by
  induction rows with
  | nil => simp [select]
  | cons first rest inductionHypothesis =>
    by_cases here : matches? first = true
    · simp [select, here]
    · simp [select, here, inductionHypothesis]

/-- A stored matching row makes the selection succeed. -/
theorem select_exists {matches? : ρ → Bool} {rows : List ρ} {id : Nat} {row : ρ}
    (stored : rows[id]? = some row) (matching : matches? row = true) :
    ∃ found, select matches? rows = some found := by
  cases selected : select matches? rows with
  | some found => exact ⟨found, rfl⟩
  | none =>
    have absent := select_none.mp selected row (List.mem_of_getElem? stored)
    simp [matching] at absent

/-- The only matching row is the one selected. -/
theorem select_unique {matches? : ρ → Bool} {rows : List ρ} {id : Nat} {row : ρ}
    (stored : rows[id]? = some row) (matching : matches? row = true)
    (unique : ∀ other candidate, rows[other]? = some candidate → matches? candidate = true →
      other = id) :
    select matches? rows = some (id, row) := by
  obtain ⟨⟨position, candidate⟩, selected⟩ := select_exists stored matching
  obtain ⟨present, agrees⟩ := select_some selected
  have same : position = id := unique position candidate present agrees
  subst same
  rw [selected, ← Option.some.inj (present.symm.trans stored)]

/-- An update that keeps who matches keeps the selection, up to the update. -/
theorem select_modify {matches? : ρ → Bool} {change : ρ → ρ}
    (same : ∀ row, matches? (change row) = matches? row) (id : Nat) (rows : List ρ) :
    select matches? (rows.modify id change) = (select matches? rows).map
      (fun found => (found.1, if found.1 = id then change found.2 else found.2)) := by
  induction rows generalizing id with
  | nil => simp [select]
  | cons first rest inductionHypothesis =>
    cases id with
    | zero =>
      simp only [List.modify_zero_cons, select, same]
      split
      · rfl
      · simp [Function.comp_def]
    | succ id =>
      simp only [List.modify_succ_cons, select]
      split
      · rfl
      · simp [inductionHypothesis, Function.comp_def]

/-- An insertion is selected when nothing before it is. -/
theorem select_insert {matches? : ρ → Bool} (rows : List ρ) (new : ρ) :
    select matches? (rows ++ [new]) = (select matches? rows).or
      (if matches? new then some (rows.length, new) else none) := by
  induction rows with
  | nil => simp [select]
  | cons first rest inductionHypothesis =>
    rw [List.cons_append, select, select, inductionHypothesis]
    split
    · rfl
    · cases select matches? rest with
      | some found => rfl
      | none =>
        simp only [Option.none_or, Option.map_none, List.length_cons]
        split <;> rfl

/-- What is selected stays selected as rows are added. -/
theorem select_kept {matches? : ρ → Bool} {rows later : List ρ} {found : Nat × ρ} (kept : rows <+: later)
    (selected : select matches? rows = some found) : select matches? later = some found := by
  obtain ⟨extra, rfl⟩ := kept
  induction extra using List.reverseRecOn with
  | nil => rwa [List.append_nil]
  | append_singleton extra new inductionHypothesis =>
    rw [← List.append_assoc, select_insert, inductionHypothesis, Option.some_or]

/-- Insertion keeps every stored row. -/
theorem stored_append {rows : List ρ} {id : Nat} {row : ρ} (extra : List ρ)
    (stored : rows[id]? = some row) : (rows ++ extra)[id]? = some row := by
  rw [List.getElem?_append_left (List.getElem?_eq_some_iff.mp stored).1, stored]

/-- A row of an extended table was stored before or is one of the new rows. -/
theorem stored_append_cases {rows extra : List ρ} {id : Nat} {row : ρ}
    (stored : (rows ++ extra)[id]? = some row) :
    rows[id]? = some row ∨ (rows.length ≤ id ∧ extra[id - rows.length]? = some row) := by
  by_cases old : id < rows.length
  · exact Or.inl (by rwa [List.getElem?_append_left old] at stored)
  · have new : rows.length ≤ id := Nat.le_of_not_gt old
    exact Or.inr ⟨new, by rwa [List.getElem?_append_right new] at stored⟩

/-- A row of a table with one insertion is an old row or the inserted one. -/
theorem stored_insert_cases {rows : List ρ} {new row : ρ} {id : Nat}
    (stored : (rows ++ [new])[id]? = some row) :
    rows[id]? = some row ∨ (id = rows.length ∧ row = new) := by
  rcases stored_append_cases stored with old | ⟨beyond, fresh⟩
  · exact Or.inl old
  · have position : id - rows.length = 0 := by
      have bound := (List.getElem?_eq_some_iff.mp fresh).1
      simp only [List.length_cons, List.length_nil] at bound
      omega
    rw [position] at fresh
    exact Or.inr ⟨by omega, (Option.some.inj fresh).symm⟩

/-- The inserted row is stored at the next identifier. -/
@[simp] theorem stored_inserted (rows : List ρ) (new : ρ) :
    (rows ++ [new])[rows.length]? = some new := by simp

/-- An updated table stores the change at one identifier and every other row
as it was. -/
theorem stored_modify_cases {rows : List ρ} {change : ρ → ρ} {id other : Nat} {row : ρ}
    (stored : (rows.modify id change)[other]? = some row) :
    (other ≠ id ∧ rows[other]? = some row) ∨
      (other = id ∧ ∃ old, rows[id]? = some old ∧ row = change old) := by
  rw [List.getElem?_modify] at stored
  by_cases same : id = other
  · subst same
    simp only [if_true] at stored
    obtain ⟨old, present, rfl⟩ := Option.map_eq_some_iff.mp stored
    exact Or.inr ⟨rfl, old, present, rfl⟩
  · simp only [same, if_false] at stored
    exact Or.inl ⟨fun equal => same equal.symm, by simpa using stored⟩

/-- An update is read back at its identifier. -/
theorem stored_modify_self {rows : List ρ} {change : ρ → ρ} {id : Nat} {row : ρ}
    (stored : rows[id]? = some row) : (rows.modify id change)[id]? = some (change row) := by
  simp [stored]

/-- An update leaves the other identifiers as they were. -/
theorem stored_modify_other {rows : List ρ} {change : ρ → ρ} {id other : Nat}
    (different : other ≠ id) : (rows.modify id change)[other]? = rows[other]? := by
  simp [different.symm]

/-- Updating a stored row replaces it. -/
theorem modify_stored {rows : List ρ} {change : ρ → ρ} {id : Nat} {row : ρ}
    (stored : rows[id]? = some row) : rows.modify id change = rows.set id (change row) := by
  apply List.ext_getElem?
  intro other
  rw [List.getElem?_modify, List.getElem?_set]
  by_cases same : id = other
  · subst same
    obtain ⟨bound, rfl⟩ := List.getElem?_eq_some_iff.mp stored
    simp [bound]
  · simp [same]

/-- A total over the matching rows is a total over all rows. -/
theorem sum_filter {κ : Type*} [AddCommMonoid κ] (counted : ρ → Bool) (amount : ρ → κ) (rows : List ρ) :
    ((rows.filter counted).map amount).sum =
      (rows.map (fun row => if counted row then amount row else 0)).sum := by
  induction rows with
  | nil => rfl
  | cons first rest inductionHypothesis =>
    by_cases here : counted first = true
    · simp [here, inductionHypothesis]
    · simp [here, inductionHypothesis]

/-- Replacing one row changes a total by the difference. -/
theorem sum_set {κ : Type*} [AddCommGroup κ] (amount : ρ → κ) {rows : List ρ} {id : Nat} {row : ρ}
    (stored : rows[id]? = some row) (new : ρ) :
    ((rows.set id new).map amount).sum = (rows.map amount).sum + (amount new - amount row) := by
  induction rows generalizing id with
  | nil => simp at stored
  | cons first rest inductionHypothesis =>
    cases id with
    | zero =>
      obtain rfl : first = row := by simpa using stored
      simp only [List.set_cons_zero, List.map_cons, List.sum_cons]
      abel
    | succ id =>
      simp only [List.set_cons_succ, List.map_cons, List.sum_cons]
      rw [inductionHypothesis (by simpa using stored)]
      abel

/-- A table changed row by row, each row where it is stored. -/
def Pointwise (change : Nat → ρ → ρ) (before after : List ρ) : Prop :=
  ∀ id : Nat, after[id]? = (before[id]?).map (change id)

/-- A modified table changes the row of the identifier alone. -/
theorem pointwise_modify (id : Nat) (change : ρ → ρ) (rows : List ρ) :
    Pointwise (fun other row => if other = id then change row else row) rows (rows.modify id change) := by
  intro other
  rw [List.getElem?_modify]
  by_cases same : id = other
  · simp [same]
  · simp [same, Ne.symm same]

/-- A mapped table changes each row alike. -/
theorem pointwise_map (change : ρ → ρ) (rows : List ρ) :
    Pointwise (fun _ row => change row) rows (rows.map change) := by
  intro id
  rw [List.getElem?_map]

/-- A stored row is found changed. -/
theorem Pointwise.stored {change : Nat → ρ → ρ} {before after : List ρ}
    (pointwise : Pointwise change before after) {id : Nat} {row : ρ} (stored : before[id]? = some row) :
    after[id]? = some (change id row) := by
  rw [pointwise id, stored]
  rfl

/-- A row found afterwards is a changed row. -/
theorem Pointwise.origin {change : Nat → ρ → ρ} {before after : List ρ}
    (pointwise : Pointwise change before after) {id : Nat} {row : ρ} (stored : after[id]? = some row) :
    ∃ old, before[id]? = some old ∧ change id old = row := by
  rw [pointwise id] at stored
  exact Option.map_eq_some_iff.mp stored

/-- The table keeps its length. -/
theorem Pointwise.length {change : Nat → ρ → ρ} {before after : List ρ}
    (pointwise : Pointwise change before after) : after.length = before.length := by
  apply Nat.le_antisymm
  · by_contra longer
    have absent := pointwise before.length
    rw [List.getElem?_eq_none_iff.mpr (Nat.le_refl _), List.getElem?_eq_getElem (by omega)] at absent
    cases absent
  · by_contra shorter
    have absent := pointwise after.length
    rw [List.getElem?_eq_none_iff.mpr (Nat.le_refl _), List.getElem?_eq_getElem (by omega)] at absent
    cases absent

/-- Rewriting one row to an equal-counting one does not change a count. -/
theorem countP_modify (counted : ρ → Bool) (rows : List ρ) (id : Nat) (change : ρ → ρ)
    (same : ∀ row, rows[id]? = some row → counted (change row) = counted row) :
    (rows.modify id change).countP counted = rows.countP counted := by
  induction rows generalizing id with
  | nil => simp
  | cons first rest inductionHypothesis =>
    cases id with
    | zero => simp [List.countP_cons, same first rfl]
    | succ id =>
      simp only [List.modify_succ_cons, List.countP_cons]
      rw [inductionHypothesis id (fun row stored => same row (by simpa using stored))]

/-- Rewriting every row to an equal-counting one does not change a count. -/
theorem countP_map (counted : ρ → Bool) (rows : List ρ) (change : ρ → ρ)
    (same : ∀ row ∈ rows, counted (change row) = counted row) :
    (rows.map change).countP counted = rows.countP counted := by
  rw [List.countP_map]
  exact List.countP_congr (fun row member => by simp [same row member])

/-- Counting rows is counting their identifiers. -/
theorem countP_range (counted : ρ → Bool) (rows : List ρ) :
    (List.range rows.length).countP (fun id => (rows[id]?).any counted) = rows.countP counted := by
  induction rows with
  | nil => rfl
  | cons first rest inductionHypothesis =>
    rw [List.length_cons, List.range_succ_eq_map, List.countP_cons, List.countP_map, List.countP_cons,
      ← inductionHypothesis]
    rfl

/-- Distinct keys are kept by updates that do not touch the key. -/
theorem keys_modify {κ : Type*} (key : ρ → κ) (rows : List ρ) (id : Nat) (change : ρ → ρ)
    (same : ∀ row, key (change row) = key row) :
    (rows.modify id change).map key = rows.map key := by
  induction rows generalizing id with
  | nil => simp
  | cons first rest inductionHypothesis =>
    cases id with
    | zero => simp [same]
    | succ id => simp [inductionHypothesis id]

/-- Two rows with one key are one row when keys are distinct. -/
theorem key_unique {κ : Type*} {key : ρ → κ} {rows : List ρ} (distinct : (rows.map key).Nodup)
    {first second : Nat} {left right : ρ} (storedLeft : rows[first]? = some left)
    (storedRight : rows[second]? = some right) (same : key left = key right) :
    first = second := by
  have mappedLeft : (rows.map key)[first]? = some (key left) := by simp [storedLeft]
  have mappedRight : (rows.map key)[second]? = some (key left) := by simp [storedRight, same]
  have bound : first < (rows.map key).length := (List.getElem?_eq_some_iff.mp mappedLeft).1
  exact (List.getElem?_inj bound distinct).mp (mappedLeft.trans mappedRight.symm)

end Rows
