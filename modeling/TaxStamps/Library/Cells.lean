import Mathlib.Data.List.Basic

/-!
# Cells that are written one at a time

A device with a range of cells. A call outside the range changes nothing, a call
inside it writes one cell. After any run of calls a cell holds what was last
written to it.
-/

namespace Cells

universe u v w
variable {σ : Type u} {ι : Type v} {β : Type w}

/-- What a list of calls last writes to a cell. -/
def last [DecidableEq ι] : List (ι × β) → ι → Option β
  | [], _ => none
  | (place, value) :: rest, index =>
    (last rest index).or (if place = index then some value else none)

/-- A device: the range of its cells, how one is read, and what a call leaves. -/
structure Device (σ : Type u) (ι : Type v) (β : Type w) where
  range : σ → ι → Prop
  read : σ → ι → β
  call : σ → ι → β → σ

namespace Device

/-- A call writes its own cell and no other. -/
structure Lawful (device : Device σ ι β) : Prop where
  outside : ∀ state place value, ¬ device.range state place → device.call state place value = state
  range_call : ∀ state place value index,
    device.range (device.call state place value) index ↔ device.range state index
  written : ∀ state place value, device.range state place →
    device.read (device.call state place value) place = value
  other : ∀ state place value index, device.range state place → device.range state index →
    index ≠ place → device.read (device.call state place value) index = device.read state index

/-- The calls of a list, one after the other. -/
def run (device : Device σ ι β) (state : σ) (calls : List (ι × β)) : σ :=
  calls.foldl (fun state call => device.call state call.1 call.2) state

variable {device : Device σ ι β}

/-- A run of calls keeps the range of the device. -/
theorem Lawful.range_run (lawful : device.Lawful) (state : σ) (calls : List (ι × β)) (index : ι) :
    device.range (device.run state calls) index ↔ device.range state index := by
  induction calls generalizing state with
  | nil => exact Iff.rfl
  | cons call rest inductionHypothesis =>
    rw [run, List.foldl_cons]
    exact (inductionHypothesis _).trans (lawful.range_call state call.1 call.2 index)

/-- A cell of the range holds what was last written to it. -/
theorem Lawful.read_run [DecidableEq ι] (lawful : device.Lawful) {state : σ} {index : ι}
    (inside : device.range state index) (calls : List (ι × β)) :
    device.read (device.run state calls) index = (last calls index).getD (device.read state index) := by
  induction calls generalizing state with
  | nil => rfl
  | cons call rest inductionHypothesis =>
    obtain ⟨place, value⟩ := call
    have kept := (lawful.range_call state place value index).mpr inside
    rw [run, List.foldl_cons, ← run, inductionHypothesis kept, last]
    cases last rest index with
    | some later => rfl
    | none =>
      by_cases here : place = index
      · subst here
        rw [if_pos rfl]
        exact lawful.written state place value inside
      · rw [if_neg here]
        by_cases within : device.range state place
        · exact lawful.other state place value index within inside (Ne.symm here)
        · rw [lawful.outside state place value within]
          rfl

end Device

end Cells
