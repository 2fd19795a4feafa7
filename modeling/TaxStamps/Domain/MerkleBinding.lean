import TaxStamps.Crypto.VcProofs
import TaxStamps.Domain.Merkle
import TaxStamps.Library.HashTree

/-!
# What a Merkle root binds

The passes of `merkle_root` climb a hash tree whose nodes are hashes. A root
therefore determines its leaves among all lists of as many leaves, unless two
different byte strings that were hashed for the two roots have one hash. Lists
of different lengths can have one root.
-/

namespace TaxStamps.Merkle

variable {env : Env}

/-- The byte strings that are hashed for the root of some leaves. -/
def hashed (env : Env) (leaves : List Bytes) : List Bytes :=
  leaves.map (fun leaf => 0 :: leaf) ++
    (HashTree.joined (nodeHash env) leaves.length (leaves.map (leafHash env))).map
      (fun pair => 1 :: (pair.1 ++ pair.2))

/-- No two different byte strings hashed for the two roots have one hash. -/
def Apart (env : Env) (left right : List Bytes) : Prop :=
  ∀ data ∈ hashed env left, ∀ other ∈ hashed env right, Vc.NoCollision env data other

/-- Pairing up a level is the level above it. -/
theorem pairUp_eq (env : Env) (level : List Bytes) :
    pairUp env level = HashTree.above (nodeHash env) level := by
  induction level using pairUp.induct with
  | case1 => simp [pairUp, HashTree.above, HashTree.pairs]
  | case2 last => simp [pairUp, HashTree.above, HashTree.pairs]
  | case3 left right rest inductionHypothesis =>
    simp only [pairUp, HashTree.above, HashTree.pairs, List.map_cons, List.cons.injEq, true_and] at *
    exact inductionHypothesis

/-- The reduction climbs the tree level by level. -/
theorem reduce_eq (env : Env) (fuel : Nat) (level : List Bytes) :
    reduce env fuel level = HashTree.climb (nodeHash env) fuel level := by
  induction fuel generalizing level with
  | zero => rfl
  | succ fuel inductionHypothesis => rw [reduce, HashTree.climb, inductionHypothesis, pairUp_eq]

/-- The published text of a root is the last node of the loop. -/
theorem reduce_merkleRoot {leaves : List Bytes} (present : leaves ≠ []) :
    ∃ root, reduce env leaves.length (leaves.map (leafHash env)) = [root] ∧
      merkleRoot env leaves = hex root := by
  have some_ : leaves.map (leafHash env) ≠ [] := by
    rwa [Ne, List.map_eq_nil_iff]
  have single := reduce_root env leaves.length (leaves.map (leafHash env)) some_ (by simp)
  obtain ⟨root, last⟩ := List.length_eq_one_iff.mp single
  exact ⟨root, last, by rw [merkleRoot, last]⟩

/-- Nodes are hashes of two hashes, so no two pairs have one node unless their
byte strings collide. -/
theorem nodes_apart {left right : List Bytes} (apart : Apart env left right) :
    HashTree.Apart (nodeHash env) (HashTree.joined (nodeHash env) left.length (left.map (leafHash env)))
      (HashTree.joined (nodeHash env) right.length (right.map (leafHash env))) := by
  have sized : ∀ leaves : List Bytes, ∀ pair ∈ HashTree.joined (nodeHash env) leaves.length
      (leaves.map (leafHash env)), pair.1.length = 32 ∧ pair.2.length = 32 := by
    intro leaves
    apply @HashTree.joined_each _ _ (fun node : Bytes => node.length = 32)
    · exact fun _ _ => env.sha256_length _
    · intro node member
      obtain ⟨leaf, _, rfl⟩ := List.mem_map.mp member
      exact env.sha256_length _
  intro pair here other there same
  have texts := apart _ (List.mem_append_right _ (List.mem_map_of_mem here)) _
    (List.mem_append_right _ (List.mem_map_of_mem there)) same
  have lengths : pair.1.length = other.1.length :=
    (sized left pair here).1.trans (sized right other there).1.symm
  obtain ⟨first, second⟩ := List.append_inj (List.cons.inj texts).2 lengths
  exact Prod.ext first second

/-- A root determines its leaves among the lists of as many leaves. -/
theorem merkleRoot_binds {left right : List Bytes} (counted : left.length = right.length)
    (apart : Apart env left right) (same : merkleRoot env left = merkleRoot env right) : left = right := by
  by_cases none : left = []
  · subst none
    exact (List.length_eq_zero_iff.mp counted.symm).symm
  · have present : right ≠ [] := by
      rwa [Ne, ← List.length_eq_zero_iff, ← counted, List.length_eq_zero_iff]
    obtain ⟨root, climbed, text⟩ := @reduce_merkleRoot env _ none
    obtain ⟨other, otherClimbed, otherText⟩ := @reduce_merkleRoot env _ present
    have roots : root = other := hex_injective (by rw [← text, ← otherText, same])
    have climbs : HashTree.climb (nodeHash env) left.length (left.map (leafHash env)) =
        HashTree.climb (nodeHash env) left.length (right.map (leafHash env)) := by
      rw [← reduce_eq, ← reduce_eq, climbed, counted, otherClimbed, roots]
    have nodes := nodes_apart apart
    rw [← counted] at nodes
    have hashes : left.map (leafHash env) = right.map (leafHash env) :=
      HashTree.climb_injective left.length (by simp [counted]) nodes climbs
    apply HashTree.map_determines _ hashes
    intro leaf here other there equal
    have texts := apart _ (List.mem_append_left _ (List.mem_map_of_mem here)) _
      (List.mem_append_left _ (List.mem_map_of_mem there)) equal
    exact (List.cons.inj texts).2

/-- The number of leaves matters: the last of three leaves may be repeated. -/
theorem merkleRoot_repeated (env : Env) (first second last : Bytes) :
    merkleRoot env [first, second, last] = merkleRoot env [first, second, last, last] := by
  simp [merkleRoot, reduce, pairUp]

end TaxStamps.Merkle
