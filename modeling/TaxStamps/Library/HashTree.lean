import Mathlib.Data.List.Basic

/-!
# Binding of a hash tree

A level is joined pairwise into the level above, and an odd last node with
itself, until one node remains. Levels of different lengths can meet in one
root, because of the node that is repeated. Levels of one length cannot, unless
two different pairs that were joined on the way have one join.

How nodes are joined, and what they are, is left open.
-/

namespace HashTree

universe u v w
variable {ν : Type u} {join : ν → ν → ν}

/-- The pairs of a level; an odd last node is paired with itself. -/
def pairs : List ν → List (ν × ν)
  | [] => []
  | [last] => [(last, last)]
  | left :: right :: rest => (left, right) :: pairs rest

/-- The level above. -/
def above (join : ν → ν → ν) (level : List ν) : List ν :=
  (pairs level).map (fun pair => join pair.1 pair.2)

/-- The level that a number of passes leads to. A single node stays. -/
def climb (join : ν → ν → ν) : Nat → List ν → List ν
  | 0, level => level
  | fuel + 1, level => if 1 < level.length then climb join fuel (above join level) else level

/-- The pairs that these passes join. -/
def joined (join : ν → ν → ν) : Nat → List ν → List (ν × ν)
  | 0, _ => []
  | fuel + 1, level =>
    if 1 < level.length then pairs level ++ joined join fuel (above join level) else []

/-- No pair on the left has the join of another pair on the right. -/
def Apart (join : ν → ν → ν) (left right : List (ν × ν)) : Prop :=
  ∀ pair ∈ left, ∀ other ∈ right, join pair.1 pair.2 = join other.1 other.2 → pair = other

/-- Half as many pairs as values, rounded up. -/
theorem pairs_length (level : List ν) : (pairs level).length = (level.length + 1) / 2 := by
  induction level using pairs.induct with
  | case1 => simp [pairs]
  | case2 last => simp [pairs]
  | case3 left right rest inductionHypothesis =>
    simp only [pairs, List.length_cons, inductionHypothesis]
    omega

/-- A level has half as many values as the one below, rounded up. -/
theorem above_length (level : List ν) : (above join level).length = (level.length + 1) / 2 := by
  rw [above, List.length_map, pairs_length]

/-- The pairs of a level and its length determine the level. -/
theorem pairs_injective {level other : List ν} (counted : level.length = other.length)
    (same : pairs level = pairs other) : level = other := by
  induction level using pairs.induct generalizing other with
  | case1 => exact (List.length_eq_zero_iff.mp counted.symm).symm
  | case2 last =>
    obtain ⟨single, rfl⟩ := List.length_eq_one_iff.mp counted.symm
    simp only [pairs, List.cons.injEq, Prod.mk.injEq] at same
    rw [same.1.1]
  | case3 left right rest inductionHypothesis =>
    match other, counted with
    | first :: second :: others, counted =>
      simp only [pairs, List.cons.injEq, Prod.mk.injEq] at same
      simp only [List.length_cons, Nat.add_right_cancel_iff] at counted
      obtain ⟨⟨rfl, rfl⟩, later⟩ := same
      rw [inductionHypothesis counted later]

/-- Images that are equal position by position come from equal elements. -/
theorem map_determines {α : Type v} {β : Type w} {image : α → β} {left right : List α}
    (apart : ∀ element ∈ left, ∀ other ∈ right, image element = image other → element = other)
    (same : left.map image = right.map image) : left = right := by
  induction left generalizing right with
  | nil =>
    cases right with
    | nil => rfl
    | cons other others => cases same
  | cons element rest inductionHypothesis =>
    cases right with
    | nil => cases same
    | cons other others =>
      simp only [List.map_cons, List.cons.injEq] at same
      have first := apart element List.mem_cons_self other List.mem_cons_self same.1
      have later := inductionHypothesis (fun candidate here target there =>
        apart candidate (List.mem_cons_of_mem _ here) target (List.mem_cons_of_mem _ there)) same.2
      rw [first, later]

/-- The level above determines a level of known length. -/
theorem above_injective {level other : List ν} (counted : level.length = other.length)
    (apart : Apart join (pairs level) (pairs other)) (same : above join level = above join other) :
    level = other :=
  pairs_injective counted (map_determines apart same)

/-- The last level determines a level of known length. -/
theorem climb_injective (fuel : Nat) {level other : List ν} (counted : level.length = other.length)
    (apart : Apart join (joined join fuel level) (joined join fuel other))
    (same : climb join fuel level = climb join fuel other) : level = other := by
  induction fuel generalizing level other with
  | zero => exact same
  | succ fuel inductionHypothesis =>
    rw [climb, climb, ← counted] at same
    rw [joined, joined, ← counted] at apart
    by_cases many : 1 < level.length
    · rw [if_pos many, if_pos many] at same apart
      have uppers : (above join level).length = (above join other).length := by
        rw [above_length, above_length, counted]
      have upper : above join level = above join other :=
        inductionHypothesis uppers (fun pair here target there =>
          apart pair (List.mem_append_right _ here) target (List.mem_append_right _ there)) same
      exact above_injective counted (fun pair here target there =>
        apart pair (List.mem_append_left _ here) target (List.mem_append_left _ there)) upper
    · rwa [if_neg many, if_neg many] at same

/-- Whatever holds of the nodes of a level and of every join holds of the pairs
that are joined. -/
theorem joined_each {holds : ν → Prop} (kept : ∀ left right, holds (join left right)) (fuel : Nat)
    {level : List ν} (each : ∀ node ∈ level, holds node) :
    ∀ pair ∈ joined join fuel level, holds pair.1 ∧ holds pair.2 := by
  have paired : ∀ {nodes : List ν}, (∀ node ∈ nodes, holds node) →
      ∀ pair ∈ pairs nodes, holds pair.1 ∧ holds pair.2 := by
    intro nodes every
    induction nodes using pairs.induct with
    | case1 => exact fun pair absent => absurd absent List.not_mem_nil
    | case2 last =>
      rw [pairs, List.forall_mem_singleton]
      exact ⟨every last List.mem_cons_self, every last List.mem_cons_self⟩
    | case3 left right rest inductionHypothesis =>
      rw [pairs, List.forall_mem_cons]
      simp only [List.forall_mem_cons] at every
      exact ⟨⟨every.1, every.2.1⟩, inductionHypothesis every.2.2⟩
  induction fuel generalizing level with
  | zero => exact fun pair absent => absurd absent List.not_mem_nil
  | succ fuel inductionHypothesis =>
    intro pair member
    rw [joined] at member
    by_cases many : 1 < level.length
    · rw [if_pos many] at member
      rcases List.mem_append.mp member with here | later
      · exact paired each pair here
      · apply inductionHypothesis ?_ pair later
        intro node listed
        obtain ⟨source, _, rfl⟩ := List.mem_map.mp listed
        exact kept source.1 source.2
    · rw [if_neg many] at member
      exact absurd member List.not_mem_nil

end HashTree
