import TaxStamps.Env

/-!
# Merkle root of a batch

Leaves and inner nodes are hashed under distinct prefixes; an odd level repeats
its last node. The root is published in hexadecimal.
-/

namespace TaxStamps.Merkle

/-- `bytes.hex`. -/
def hex (data : Bytes) : PyStr :=
  data.flatMap (fun byte =>
    [Jcs.hexDigit (byte.toNat / 16), Jcs.hexDigit (byte.toNat % 16)])

/-- `leaf_hash`. -/
def leafHash (env : Env) (leaf : Bytes) : Bytes := env.sha256 (0 :: leaf)

/-- `_node_hash`. -/
def nodeHash (env : Env) (left right : Bytes) : Bytes := env.sha256 (1 :: (left ++ right))

/-- One pass of the loop: an odd last node is paired with itself. -/
def pairUp (env : Env) : List Bytes → List Bytes
  | [] => []
  | [last] => [nodeHash env last last]
  | left :: right :: rest => nodeHash env left right :: pairUp env rest

/-- The loop, as often as it can run. -/
def reduce (env : Env) : Nat → List Bytes → List Bytes
  | 0, level => level
  | fuel + 1, level => if 1 < level.length then reduce env fuel (pairUp env level) else level

/-- `merkle_root`. -/
def merkleRoot (env : Env) (leaves : List Bytes) : PyStr :=
  match reduce env leaves.length (leaves.map (leafHash env)) with
  | [] => hex (env.sha256 [])
  | root :: _ => hex root

/-- Half as many nodes as leaves, rounded up. -/
theorem pairUp_length (env : Env) (level : List Bytes) :
    (pairUp env level).length = (level.length + 1) / 2 := by
  induction level using pairUp.induct with
  | case1 => rfl
  | case2 last => simp [pairUp]
  | case3 left right rest inductionHypothesis =>
    simp only [pairUp, List.length_cons, inductionHypothesis]
    omega

/-- The loop ends with one node. -/
theorem reduce_root (env : Env) (fuel : Nat) (level : List Bytes) (present : level ≠ [])
    (enough : level.length ≤ fuel + 1) : (reduce env fuel level).length = 1 := by
  induction fuel generalizing level with
  | zero =>
    have positive := List.length_pos_iff.mpr present
    rw [reduce]
    omega
  | succ fuel inductionHypothesis =>
    have positive := List.length_pos_iff.mpr present
    rw [reduce]
    split
    case isTrue many =>
      have paired := pairUp_length env level
      exact inductionHypothesis _ (List.length_pos_iff.mp (by omega)) (by omega)
    case isFalse single => omega

/-- Every node of a level is a hash. -/
theorem pairUp_sized (env : Env) (level : List Bytes) : ∀ node ∈ pairUp env level, node.length = 32 := by
  induction level using pairUp.induct with
  | case1 => simp [pairUp]
  | case2 last => simp [pairUp, nodeHash, env.sha256_length]
  | case3 left right rest inductionHypothesis =>
    simp only [pairUp, List.mem_cons, forall_eq_or_imp]
    exact ⟨env.sha256_length _, inductionHypothesis⟩

/-- Every node of the tree has 32 bytes. -/
theorem reduce_sized (env : Env) (fuel : Nat) (level : List Bytes)
    (sized : ∀ node ∈ level, node.length = 32) : ∀ node ∈ reduce env fuel level, node.length = 32 := by
  induction fuel generalizing level with
  | zero => exact sized
  | succ fuel inductionHypothesis =>
    rw [reduce]
    split
    · exact inductionHypothesis _ (pairUp_sized env level)
    · exact sized

/-- A byte is written with two digits. -/
theorem hex_length (data : Bytes) : (hex data).length = 2 * data.length := by
  induction data with
  | nil => rfl
  | cons byte rest inductionHypothesis =>
    simp only [hex, List.flatMap_cons, List.length_append, List.length_cons, List.length_nil] at *
    omega

/-- Hexadecimal digits have distinct characters. -/
theorem hexDigit_injective : ∀ left < 16, ∀ right < 16, Jcs.hexDigit left = Jcs.hexDigit right →
    left = right := by decide

/-- The hexadecimal text determines the bytes. -/
theorem hex_injective {left right : Bytes} (same : hex left = hex right) : left = right := by
  induction left generalizing right with
  | nil =>
    cases right with
    | nil => rfl
    | cons byte rest => cases same
  | cons byte rest inductionHypothesis =>
    cases right with
    | nil => cases same
    | cons other others =>
      simp only [hex, List.flatMap_cons, List.cons_append, List.nil_append,
        List.cons.injEq] at same
      obtain ⟨high, low, tails⟩ := same
      have bound := byte.toNat_lt
      have otherBound := other.toNat_lt
      have highs := hexDigit_injective _ (by omega) _ (by omega) high
      have lows := hexDigit_injective _ (by omega) _ (by omega) low
      have bytes : byte = other := UInt8.toNat_inj.mp (by omega)
      rw [bytes, inductionHypothesis tails]

/-- A root is 64 hexadecimal digits. -/
theorem merkleRoot_length (env : Env) (leaves : List Bytes) : (merkleRoot env leaves).length = 64 := by
  have sized : ∀ node ∈ reduce env leaves.length (leaves.map (leafHash env)), node.length = 32 := by
    refine reduce_sized env _ _ (fun node member => ?_)
    obtain ⟨leaf, _, rfl⟩ := List.mem_map.mp member
    exact env.sha256_length _
  rw [merkleRoot]
  split
  · rw [hex_length, env.sha256_length]
  case _ root rest level =>
    rw [hex_length, sized root (by rw [level]; exact List.mem_cons_self)]

end TaxStamps.Merkle
