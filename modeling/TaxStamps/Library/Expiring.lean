import Mathlib.Logic.Basic

/-!
# A store whose entries expire

An entry has a count and, when it is not kept for good, the last time at which it is
there. A store is given by what is kept under a name and by three commands with their
laws: one counts, one dates a count, and one claims a name that it finds free. A map is
such a store. The last part is about runs of any step function: what a step can set and
no step clears is set exactly when it was set before the run or a step set it.
-/

namespace Expiring

universe u v

/-- A count, and the last time at which it is there. -/
structure Entry where
  count : Nat
  deadline : Option Nat

/-- The entry is there at the time. -/
def Entry.alive (entry : Entry) (now : Nat) : Bool :=
  entry.deadline.all (fun deadline => decide (now ≤ deadline))

/-- What is there of what is kept. -/
def alive (now : Nat) (kept : Option Entry) : Option Entry := kept.filter (fun entry => entry.alive now)

/-- A store and its commands. A command is about one name and executed at a time. -/
class Commands (Name : outParam (Type u)) (σ : Type v) where
  kept : σ → Name → Option Entry
  /-- `INCR` -/
  increase : σ → Nat → Name → σ × Nat
  /-- `EXPIRE` -/
  expire : σ → Nat → Name → Nat → σ × Bool
  /-- `SET NX EX` -/
  claim : σ → Nat → Name → Nat → σ × Bool
  increase_other : ∀ {store : σ} {now : Nat} {name other : Name}, other ≠ name →
    kept (increase store now name).1 other = kept store other
  /-- A name that is not there counts from one. -/
  increase_free : ∀ {store : σ} {now : Nat} {name : Name}, alive now (kept store name) = none →
    kept (increase store now name).1 name = some ⟨1, none⟩ ∧ (increase store now name).2 = 1
  /-- A count keeps its deadline. -/
  increase_held : ∀ {store : σ} {now : Nat} {name : Name} {entry : Entry}, alive now (kept store name) = some entry →
    kept (increase store now name).1 name = some ⟨entry.count + 1, entry.deadline⟩ ∧
      (increase store now name).2 = entry.count + 1
  expire_other : ∀ {store : σ} {now ttl : Nat} {name other : Name}, other ≠ name →
    kept (expire store now name ttl).1 other = kept store other
  expire_free : ∀ {store : σ} {now ttl : Nat} {name : Name}, alive now (kept store name) = none →
    kept (expire store now name ttl).1 name = kept store name
  /-- A name that is there is gone after the time to live. -/
  expire_held : ∀ {store : σ} {now ttl : Nat} {name : Name} {entry : Entry}, alive now (kept store name) = some entry →
    kept (expire store now name ttl).1 name = some ⟨entry.count, some (now + ttl)⟩
  claim_other : ∀ {store : σ} {now ttl : Nat} {name other : Name}, other ≠ name →
    kept (claim store now name ttl).1 other = kept store other
  /-- A name that is not there is claimed for the time to live. -/
  claim_free : ∀ {store : σ} {now ttl : Nat} {name : Name}, alive now (kept store name) = none →
    kept (claim store now name ttl).1 name = some ⟨1, some (now + ttl)⟩ ∧ (claim store now name ttl).2 = true
  claim_held : ∀ {store : σ} {now ttl : Nat} {name : Name} {entry : Entry}, alive now (kept store name) = some entry →
    kept (claim store now name ttl).1 name = kept store name ∧ (claim store now name ttl).2 = false

namespace Commands

variable {Name : Type u} {σ : Type v} [Commands Name σ] {store : σ} {now ttl : Nat} {name other : Name}

/-- The entry of a name at a time. -/
def live (store : σ) (now : Nat) (name : Name) : Option Entry := alive now (kept store name)

/-- Stores that agree on a name have it alike at every time. -/
theorem live_congr {left right : σ} (same : kept left name = kept right name) (time : Nat) :
    live left time name = live right time name := congrArg (alive time) same

/-- A kept entry is there until its deadline. -/
theorem live_kept {entry : Entry} (stored : kept store name = some entry) (there : entry.alive now = true) :
    live store now name = some entry := by
  rw [live, stored, alive, Option.filter_some, if_pos there]

/-- A name that is not there is not dated. -/
theorem expire_cases (store : σ) (now : Nat) (name : Name) (ttl : Nat) :
    kept (expire store now name ttl).1 name = kept store name ∨ ∃ entry, kept store name = some entry ∧
      kept (expire store now name ttl).1 name = some ⟨entry.count, some (now + ttl)⟩ := by
  cases found : alive now (kept store name) with
  | none => exact Or.inl (expire_free found)
  | some entry => exact Or.inr ⟨entry, (Option.filter_eq_some_iff.mp found).1, expire_held found⟩

/-- Within the time to live, a name is held after a command to claim one exactly
when it was held before or is what the command won. -/
theorem live_claim {time : Nat} (within : time ≤ now + ttl) :
    (live (claim store now name ttl).1 time other).isSome = true ↔
      (live store time other).isSome = true ∨ live store now name = none ∧ name = other := by
  by_cases here : other = name
  · subst here
    cases found : live store now other with
    | none =>
      have there : (Entry.mk 1 (some (now + ttl))).alive time = true := decide_eq_true within
      rw [live_kept (claim_free found).1 there]
      exact iff_of_true rfl (.inr ⟨rfl, rfl⟩)
    | some entry =>
      rw [live_congr (claim_held found).1]
      simp
  · rw [live_congr (claim_other here)]
    have apart : ¬ name = other := fun same => here same.symm
    simp [apart]

end Commands

/-- A store as a map from names to entries. -/
abbrev Store (Name : Type u) := Name → Option Entry

section Store

variable {Name : Type u} [DecidableEq Name]

/-- The map with the entry under the name. -/
def Store.put (store : Store Name) (name : Name) (entry : Entry) : Store Name :=
  fun other => if other = name then some entry else store other

/-- The entry is kept under its name. -/
theorem Store.put_self (store : Store Name) (name : Name) (entry : Entry) :
    store.put name entry name = some entry := if_pos rfl

/-- The other names are left. -/
theorem Store.put_other {store : Store Name} {name other : Name} {entry : Entry} (apart : other ≠ name) :
    store.put name entry other = store other := if_neg apart

/-- A name that is there is increased, any other counts from one without a deadline. -/
def Store.increase (store : Store Name) (now : Nat) (name : Name) : Store Name × Nat :=
  match alive now (store name) with
  | none => (store.put name ⟨1, none⟩, 1)
  | some entry => (store.put name ⟨entry.count + 1, entry.deadline⟩, entry.count + 1)

/-- A name that is there gets the deadline. -/
def Store.expire (store : Store Name) (now : Nat) (name : Name) (ttl : Nat) : Store Name × Bool :=
  match alive now (store name) with
  | none => (store, false)
  | some entry => (store.put name ⟨entry.count, some (now + ttl)⟩, true)

/-- A name that is not there is claimed up to the deadline. -/
def Store.claim (store : Store Name) (now : Nat) (name : Name) (ttl : Nat) : Store Name × Bool :=
  match alive now (store name) with
  | none => (store.put name ⟨1, some (now + ttl)⟩, true)
  | some _ => (store, false)

/-- The commands of a map. -/
instance : Commands Name (Store Name) where
  kept store := store
  increase := Store.increase
  expire := Store.expire
  claim := Store.claim
  increase_other apart := by
    unfold Store.increase
    split
    · exact Store.put_other apart
    · exact Store.put_other apart
  increase_free free := by
    rw [Store.increase, free]
    exact ⟨Store.put_self .., rfl⟩
  increase_held held := by
    rw [Store.increase, held]
    exact ⟨Store.put_self .., rfl⟩
  expire_other apart := by
    unfold Store.expire
    split
    · rfl
    · exact Store.put_other apart
  expire_free free := by
    rw [Store.expire, free]
  expire_held held := by
    rw [Store.expire, held]
    exact Store.put_self ..
  claim_other apart := by
    unfold Store.claim
    split
    · exact Store.put_other apart
    · rfl
  claim_free free := by
    rw [Store.claim, free]
    exact ⟨Store.put_self .., rfl⟩
  claim_held held := by
    rw [Store.claim, held]
    exact ⟨rfl, rfl⟩

end Store

section Runs

variable {σ : Type u} {α : Type v}

/-- An input of a run with the state that it comes to. -/
structure Turn (σ : Type u) (α : Type v) where
  before : σ
  input : α

/-- The turns of a run. -/
def turns (step : σ → α → σ) : σ → List α → List (Turn σ α)
  | _, [] => []
  | state, input :: rest => ⟨state, input⟩ :: turns step (step state input) rest

variable {step : σ → α → σ} {start : σ} {inputs : List α} {earlier later : List (Turn σ α)}
  {turn : Turn σ α}

/-- A turn's input is one of the inputs. -/
theorem input_listed (taken : turn ∈ turns step start inputs) : turn.input ∈ inputs := by
  induction inputs generalizing start with
  | nil => cases taken
  | cons input rest inductionHypothesis =>
    rcases List.mem_cons.mp taken with here | there
    · rw [here]
      exact List.mem_cons_self
    · exact List.mem_cons_of_mem _ (inductionHypothesis there)

/-- What steps set and never clear holds before a turn exactly when it held at
the start or an earlier turn set it. -/
theorem before_iff {held : σ → Prop} {sets : Turn σ α → Prop}
    (latched : ∀ state, ∀ input ∈ inputs, held (step state input) ↔ held state ∨ sets ⟨state, input⟩)
    (split : turns step start inputs = earlier ++ turn :: later) :
    held turn.before ↔ held start ∨ ∃ setter ∈ earlier, sets setter := by
  induction inputs generalizing start earlier with
  | nil =>
    have nonempty : earlier ++ turn :: later ≠ [] := by simp
    exact absurd split.symm nonempty
  | cons input rest inductionHypothesis =>
    rw [turns] at split
    cases earlier with
    | nil =>
      have first := (List.cons.inj split).1
      rw [← first]
      simp
    | cons first others =>
      obtain ⟨rfl, following⟩ := List.cons.inj split
      rw [inductionHypothesis (fun state other listed =>
          latched state other (List.mem_cons_of_mem _ listed)) following,
        latched start input List.mem_cons_self, or_assoc]
      simp

end Runs

end Expiring
