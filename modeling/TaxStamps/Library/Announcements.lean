import TaxStamps.Library.Rows

/-!
# Announcements of what has happened

States carry marks, and a log announces each mark. A mark may vanish later, but
it leaves something behind that stays and that keeps the mark from being made
again. When every step appends to the log exactly the marks that it makes, the
log announces once what was marked in some state, and nothing else.

The second half is about marks that are properties of the rows of a table, each
row under a name of its own.
-/

namespace Announcements

universe u v w
variable {σ : Type u} {α : Type v}

/-- A number that is one when something happened and zero otherwise. -/
def Once (number : Nat) (happened : Prop) : Prop :=
  (happened → number = 1) ∧ (¬ happened → number = 0)

/-- The number counts anything that happens exactly when the first thing does. -/
theorem Once.congr {number : Nat} {happened other : Prop} (once : Once number happened)
    (same : happened ↔ other) : Once number other := by
  rwa [propext same] at once

/-- The log of a state, the marks it carries, and what is left of earlier marks. -/
structure Board (σ : Type u) (α : Type v) where
  log : σ → List α
  marks : σ → α → Prop
  past : σ → α → Prop

/-- One step: the log grows by exactly the marks that are made, none of which
was made before. -/
structure Announces (board : Board σ α) (before after : σ) (new : List α) : Prop where
  appended : board.log after = board.log before ++ new
  distinct : new.Nodup
  lasting : ∀ event, board.past before event → board.past after event
  announced : ∀ event, board.marks after event → board.marks before event ∨ event ∈ new
  fresh : ∀ event ∈ new, board.marks after event ∧ board.past after event ∧ ¬ board.past before event

/-- The log after a number of states is exact. -/
structure Exact (board : Board σ α) (states : Nat → σ) (count : Nat) : Prop where
  distinct : (board.log (states count)).Nodup
  past : ∀ event ∈ board.log (states count), board.past (states count) event
  announced : ∀ event, event ∈ board.log (states count) ↔
    ∃ number ≤ count, board.marks (states number) event

variable {board : Board σ α} {states : Nat → σ} {count : Nat}

/-- Nothing is announced before anything is marked. -/
theorem Exact.start (empty : board.log (states 0) = []) (unmarked : ∀ event, ¬ board.marks (states 0) event) :
    Exact board states 0 := by
  constructor
  · rw [empty]
    exact List.nodup_nil
  · rw [empty]
    exact fun event absent => absurd absent List.not_mem_nil
  · intro event
    rw [empty]
    constructor
    · exact fun absent => absurd absent List.not_mem_nil
    · rintro ⟨number, bounded, marks⟩
      rw [Nat.le_zero.mp bounded] at marks
      exact absurd marks (unmarked event)

/-- A step keeps the log exact. -/
theorem Exact.step (exact : Exact board states count) {new : List α}
    (step : Announces board (states count) (states (count + 1)) new) : Exact board states (count + 1) := by
  constructor
  · rw [step.appended, List.nodup_append]
    refine ⟨exact.distinct, step.distinct, ?_⟩
    rintro event old other fresh rfl
    exact (step.fresh event fresh).2.2 (exact.past event old)
  · intro event listed
    rw [step.appended] at listed
    rcases List.mem_append.mp listed with old | fresh
    · exact step.lasting event (exact.past event old)
    · exact (step.fresh event fresh).2.1
  · intro event
    rw [step.appended, List.mem_append, exact.announced]
    constructor
    · rintro (⟨number, bounded, marks⟩ | fresh)
      · exact ⟨number, by omega, marks⟩
      · exact ⟨count + 1, le_refl _, (step.fresh event fresh).1⟩
    · rintro ⟨number, bounded, marks⟩
      by_cases last : number = count + 1
      · rw [last] at marks
        rcases step.announced event marks with old | fresh
        · exact Or.inl ⟨count, le_refl _, old⟩
        · exact Or.inr fresh
      · exact Or.inl ⟨number, by omega, marks⟩

/-- An exact log announces once what was marked. -/
theorem Exact.once [BEq α] [LawfulBEq α] (exact : Exact board states count) (event : α) :
    Once ((board.log (states count)).count event) (∃ number ≤ count, board.marks (states number) event) := by
  constructor
  · intro marked
    exact List.count_eq_one_of_mem exact.distinct ((exact.announced event).mpr marked)
  · intro unmarked
    exact List.count_eq_zero_of_not_mem (fun listed => unmarked ((exact.announced event).mp listed))

/-- A mark that stays was made when the last state carries it. -/
theorem Exact.once_last [BEq α] [LawfulBEq α] (exact : Exact board states count) (event : α)
    (stays : ∀ state, board.past state event → board.marks state event) :
    Once ((board.log (states count)).count event) (board.marks (states count) event) := by
  obtain ⟨one, zero⟩ := exact.once event
  constructor
  · exact fun marks => one ⟨count, le_refl _, marks⟩
  · intro unmarked
    apply List.count_eq_zero_of_not_mem
    exact fun listed => unmarked (stays _ (exact.past event listed))

section Tables

variable {ρ : Type w} {name : Nat → ρ → α}

/-- A row with the property has the name. -/
def Holds (name : Nat → ρ → α) (property : ρ → Prop) (rows : List ρ) (subject : α) : Prop :=
  ∃ (id : Nat) (row : ρ), rows[id]? = some row ∧ name id row = subject ∧ property row

/-- A name belongs to one row. -/
def Named (name : Nat → ρ → α) (rows : List ρ) : Prop :=
  ∀ (first second : Nat) (left right : ρ), rows[first]? = some left → rows[second]? = some right →
    name first left = name second right → first = second

variable {marks past : ρ → Prop} {before after rows : List ρ} {new : List α}

/-- What a step does to a table: the rows stay, under their names and with what
is left of their marks, and the marks that are made are those of the names
listed. -/
structure Turns (name : Nat → ρ → α) (marks past : ρ → Prop) (before after : List ρ) (new : List α) : Prop where
  lasting : ∀ (id : Nat) (row : ρ), before[id]? = some row →
    ∃ later, after[id]? = some later ∧ name id later = name id row ∧ (past row → past later)
  announced : ∀ (id : Nat) (row : ρ), after[id]? = some row → marks row →
    name id row ∈ new ∨ ∃ old, before[id]? = some old ∧ name id old = name id row ∧ marks old
  fresh : ∀ subject ∈ new, ∃ (id : Nat) (old row : ρ), before[id]? = some old ∧ name id old = subject ∧
    ¬ past old ∧ after[id]? = some row ∧ name id row = subject ∧ marks row

/-- New rows are not marked. -/
theorem Turns.append {extra : List ρ} (unmarked : ∀ row ∈ extra, ¬ marks row) :
    Turns name marks past rows (rows ++ extra) [] := by
  constructor
  · exact fun id row stored => ⟨row, Rows.stored_append extra stored, rfl, fun gone => gone⟩
  · intro id row stored marked
    rcases Rows.stored_append_cases stored with old | ⟨_, fresh⟩
    · exact Or.inr ⟨row, old, rfl, marked⟩
    · exact absurd marked (unmarked row (List.mem_of_getElem? fresh))
  · exact fun subject absent => absurd absent List.not_mem_nil

/-- A table that stays as it is turns nothing. -/
theorem Turns.same : Turns name marks past rows rows [] := by
  have appended : Turns name marks past rows (rows ++ []) [] :=
    Turns.append (fun row absent => absurd absent List.not_mem_nil)
  rwa [List.append_nil] at appended

/-- Changes of rows that mark none. -/
theorem Turns.change {change : Nat → ρ → ρ} (pointwise : Rows.Pointwise change before after)
    (named : ∀ id row, name id (change id row) = name id row)
    (lasts : ∀ (id : Nat) (row : ρ), before[id]? = some row → past row → past (change id row))
    (unmarked : ∀ (id : Nat) (row : ρ), before[id]? = some row → marks (change id row) → marks row) :
    Turns name marks past before after [] := by
  constructor
  · exact fun id row stored => ⟨_, pointwise.stored stored, named id row, lasts id row stored⟩
  · intro id row stored marked
    obtain ⟨old, present, rfl⟩ := pointwise.origin stored
    exact Or.inr ⟨old, present, (named id old).symm, unmarked id old present marked⟩
  · exact fun subject absent => absurd absent List.not_mem_nil

/-- A change of one row that does not mark it. -/
theorem Turns.modify {id : Nat} {change : ρ → ρ} (named : ∀ other row, name other (change row) = name other row)
    (lasts : ∀ row, rows[id]? = some row → past row → past (change row))
    (unmarked : ∀ row, rows[id]? = some row → marks (change row) → marks row) :
    Turns name marks past rows (rows.modify id change) [] := by
  apply Turns.change (Rows.pointwise_modify id change rows)
  · intro other row
    split
    · exact named other row
    · rfl
  · intro other row stored gone
    by_cases same : other = id
    · subst same
      rw [if_pos rfl]
      exact lasts row stored gone
    · rwa [if_neg same]
  · intro other row stored marked
    by_cases same : other = id
    · subst same
      rw [if_pos rfl] at marked
      exact unmarked row stored marked
    · rwa [if_neg same] at marked

/-- A change of one row that marks it. -/
theorem Turns.mark {id : Nat} {row : ρ} {change : ρ → ρ} (stored : rows[id]? = some row)
    (named : ∀ other row, name other (change row) = name other row) (unpast : ¬ past row)
    (marked : marks (change row)) : Turns name marks past rows (rows.modify id change) [name id row] := by
  constructor
  · intro other held present
    by_cases same : other = id
    · subst same
      obtain rfl := Option.some.inj (stored.symm.trans present)
      exact ⟨_, Rows.stored_modify_self stored, named other row, fun gone => absurd gone unpast⟩
    · exact ⟨held, (Rows.stored_modify_other same).trans present, rfl, fun gone => gone⟩
  · intro other held present marks
    rcases Rows.stored_modify_cases present with ⟨_, old⟩ | ⟨rfl, old, origin, rfl⟩
    · exact Or.inr ⟨held, old, rfl, marks⟩
    · obtain rfl := Option.some.inj (stored.symm.trans origin)
      rw [named]
      exact Or.inl (List.mem_singleton_self _)
  · intro subject listed
    rw [List.mem_singleton.mp listed]
    exact ⟨id, row, _, stored, rfl, unpast, Rows.stored_modify_self stored, named id row, marked⟩

/-- No row is removed. -/
theorem Turns.length_le (turns : Turns name marks past before after new) : before.length ≤ after.length := by
  by_contra removed
  obtain ⟨later, stored, _⟩ := turns.lasting after.length _ (List.getElem?_eq_getElem (not_le.mp removed))
  exact absurd (List.getElem?_eq_some_iff.mp stored).1 (lt_irrefl _)

/-- What is left of a mark stays. -/
theorem Turns.holds_lasting (turns : Turns name marks past before after new) {subject : α}
    (held : Holds name past before subject) : Holds name past after subject := by
  obtain ⟨id, row, stored, rfl, gone⟩ := held
  obtain ⟨later, present, named, lasts⟩ := turns.lasting id row stored
  exact ⟨id, later, present, named, lasts gone⟩

/-- A mark after the step was there before, or is announced. -/
theorem Turns.holds_announced (turns : Turns name marks past before after new) {subject : α}
    (held : Holds name marks after subject) : Holds name marks before subject ∨ subject ∈ new := by
  obtain ⟨id, row, stored, rfl, marked⟩ := held
  rcases turns.announced id row stored marked with fresh | ⟨old, present, named, marks⟩
  · exact Or.inr fresh
  · exact Or.inl ⟨id, old, present, named, marks⟩

/-- An announced name is marked after the step, and bore nothing of an earlier mark before it. -/
theorem Turns.holds_fresh (turns : Turns name marks past before after new) (unique : Named name before)
    {subject : α} (listed : subject ∈ new) :
    Holds name marks after subject ∧ ¬ Holds name past before subject := by
  obtain ⟨id, old, row, stored, rfl, unpast, present, named, marked⟩ := turns.fresh subject listed
  refine ⟨⟨id, row, present, named, marked⟩, ?_⟩
  rintro ⟨other, held, found, same, gone⟩
  obtain rfl := unique other id held old found stored same
  rw [Option.some.inj (found.symm.trans stored)] at gone
  exact unpast gone

end Tables

end Announcements
