import TaxStamps.Library.Rows
import Mathlib.Logic.Relation

/-!
# Tables that grow

A table whose rows stay where they are and only ever change in one direction: every
row has a later version at its place, by a relation that may also say what never
changes. New rows are added at the end. An append-only table is the special case in
which the earlier table is a prefix of the later one.

Who entered a row is a property of runs: each entry at the end that was not there at the
start goes back to an action before which it was absent and since which it is present.
-/

namespace Growth

open Relation

universe u
variable {ρ : Type u} {later : ρ → ρ → Prop} {before middle after : List ρ}

/-- Every row has a later version where it was. -/
def Carried (later : ρ → ρ → Prop) (before after : List ρ) : Prop :=
  ∀ (id : Nat) (row : ρ), before[id]? = some row → ∃ new, after[id]? = some new ∧ later row new

/-- Rows that stay are carried, if a row can stay. -/
theorem Carried.refl (refl : ∀ row, later row row) (rows : List ρ) : Carried later rows rows :=
  fun _ row stored => ⟨row, stored, refl row⟩

/-- Rows that are carried twice are carried, if the ways of a row compose. -/
theorem Carried.trans (trans : ∀ {first second third}, later first second → later second third →
    later first third) (earlier : Carried later before middle) (rest : Carried later middle after) :
    Carried later before after := by
  intro id row stored
  obtain ⟨half, present, moved⟩ := earlier id row stored
  obtain ⟨new, last, further⟩ := rest id half present
  exact ⟨new, last, trans moved further⟩

/-- Rows added at the end leave the others. -/
theorem Carried.append (refl : ∀ row, later row row) (rows extra : List ρ) :
    Carried later rows (rows ++ extra) :=
  fun _ row stored => ⟨row, Rows.stored_append extra stored, refl row⟩

/-- One row moves on. -/
theorem Carried.modify (refl : ∀ row, later row row) {rows : List ρ} {id : Nat} {change : ρ → ρ}
    (moves : ∀ row, rows[id]? = some row → later row (change row)) :
    Carried later rows (rows.modify id change) := by
  intro other row stored
  by_cases same : other = id
  · subst same
    exact ⟨change row, Rows.stored_modify_self stored, moves row stored⟩
  · exact ⟨row, (Rows.stored_modify_other same).trans stored, refl row⟩

/-- All rows move on. -/
theorem Carried.map {rows : List ρ} {change : ρ → ρ} (moves : ∀ row ∈ rows, later row (change row)) :
    Carried later rows (rows.map change) := by
  intro id row stored
  refine ⟨change row, ?_, moves row (List.mem_of_getElem? stored)⟩
  rw [List.getElem?_map, stored, Option.map_some]

/-- No row is lost. -/
theorem Carried.length (carried : Carried later before after) : before.length ≤ after.length := by
  by_contra shorter
  have bound : after.length < before.length := Nat.lt_of_not_le shorter
  obtain ⟨new, stored, _⟩ := carried after.length _ (List.getElem?_eq_getElem bound)
  have inside := (List.getElem?_eq_some_iff.mp stored).1
  exact Nat.lt_irrefl _ inside

section Statuses

variable {σ : Type u} {successors : σ → List σ}

/-- A status that is reached by allowed moves. -/
def Forward (successors : σ → List σ) : σ → σ → Prop :=
  ReflTransGen (fun old new => new ∈ successors old)

/-- An allowed move is a path of one step. -/
theorem Forward.single {old new : σ} (allowed : new ∈ successors old) : Forward successors old new :=
  ReflTransGen.single allowed

/-- What is closed under the moves is never left. -/
theorem Forward.stays (holds : σ → Prop) (closed : ∀ old, holds old → ∀ new ∈ successors old, holds new)
    {old new : σ} (forward : Forward successors old new) (holdsOld : holds old) : holds new := by
  induction forward with
  | refl => exact holdsOld
  | tail _ move inductionHypothesis => exact closed _ inductionHypothesis _ move

end Statuses

section Entries

universe v w
variable {σ : Type u} {α : Type v} {ε : Type w} {step : σ → α → σ} {has : σ → ε → Prop}

/-- What a run ends with and did not start with, one of its actions entered: it was absent
before the action, and it has been present since. -/
theorem entered (actions : List α) {start : σ} {entry : ε} (absent : ¬ has start entry)
    (present : has (actions.foldl step start) entry) :
    ∃ before action later, actions = before ++ action :: later ∧
      ¬ has (before.foldl step start) entry ∧
      ∀ middle, middle <+: later → has ((before ++ action :: middle).foldl step start) entry := by
  induction actions using List.reverseRecOn with
  | nil => exact absurd present absent
  | append_singleton front last inductionHypothesis =>
    by_cases early : has (front.foldl step start) entry
    · obtain ⟨before, action, later, rfl, missing, stays⟩ := inductionHypothesis early
      refine ⟨before, action, later ++ [last], by simp, missing, fun middle within => ?_⟩
      rcases List.prefix_concat_iff.mp within with rfl | inside
      · rwa [← List.cons_append, ← List.append_assoc]
      · exact stays middle inside
    · refine ⟨front, last, [], rfl, early, fun middle within => ?_⟩
      obtain rfl := List.prefix_nil.mp within
      exact present

end Entries

end Growth
