import TaxStamps.Env

/-!
# Numbers in a JSONB column

PostgreSQL keeps a JSON number as a decimal with its scale and prints it without
an exponent. A float that Python spells with an exponent and without decimals
left, such as `1e+16`, therefore comes back as an integer, and `5.0` comes back
as it went. This is a column the laws of the deployment admit, for results about
what such a column leads to.
-/

namespace TaxStamps

namespace Value

/-- A number as PostgreSQL prints it and Python reads it. -/
def decimalNumber : PyFloat → Value
  | .finite negative rep =>
    if (rep.fractionDigits.length : Int) ≤ rep.exponentValue then
      let magnitude : Int := Decimal.natValue (rep.whole ++ rep.fractionDigits) *
        10 ^ (rep.exponentValue - (rep.fractionDigits.length : Int)).toNat
      .int (if negative then -magnitude else magnitude)
    else .float (.finite negative rep)
  | other => .float other

mutual

/-- A document as a column gives it back. -/
def decimals : Value → Value
  | .float number => decimalNumber number
  | .list items => .list (decimalsItems items)
  | .dict members => .dict (decimalsMembers members)
  | other => other

/-- The elements as JSONB keeps them. -/
def decimalsItems : List Value → List Value
  | [] => []
  | item :: rest => decimals item :: decimalsItems rest

/-- The values as JSONB keeps them. -/
def decimalsMembers : List (Key × Value) → List (Key × Value)
  | [] => []
  | (key, value) :: rest => (key, decimals value) :: decimalsMembers rest

end

/-- A float that is kept as a number denotes what it did. -/
theorem decimalNumber_meaning (number : PyFloat) :
    (decimalNumber number).denote = (Value.float number).denote ∧ (decimalNumber number).WellFormed := by
  cases number with
  | nan => exact ⟨rfl, trivial⟩
  | infinity negative => exact ⟨rfl, trivial⟩
  | finite negative rep =>
    rw [decimalNumber]
    split
    case isTrue integral =>
      refine ⟨?_, trivial⟩
      obtain ⟨gap, difference⟩ := Int.le.dest integral
      have exact_ : rep.exponentValue - (rep.fractionDigits.length : Int) = (gap : Int) := by omega
      have value : rep.magnitude =
          ((Decimal.natValue (rep.whole ++ rep.fractionDigits) * 10 ^ gap : Int) : ℚ) := by
        rw [Decimal.magnitude, exact_, zpow_natCast]
        push_cast
        rfl
      rw [exact_, Int.toNat_natCast]
      cases negative <;> simp [denote, PyFloat.number?, value]
    case isFalse => exact ⟨rfl, trivial⟩

/-- Each element is kept by itself. -/
theorem decimalsItems_map (items : List Value) : decimalsItems items = items.map decimals := by
  induction items with
  | nil => rfl
  | cons item rest inductionHypothesis => rw [decimalsItems, List.map_cons, inductionHypothesis]

/-- Each value is kept by itself. -/
theorem decimalsMembers_map (members : List (Key × Value)) :
    decimalsMembers members = members.map (fun member => (member.1, decimals member.2)) := by
  induction members with
  | nil => rfl
  | cons member rest inductionHypothesis => rw [decimalsMembers, List.map_cons, inductionHypothesis]

/-- The members denote what they did if each value does. -/
theorem denoteMembers_decimals {members : List (Key × Value)}
    (same : ∀ member ∈ members, member.2.decimals.denote = member.2.denote) :
    denoteMembers (decimalsMembers members) = denoteMembers members := by
  induction members with
  | nil => rfl
  | cons member rest inductionHypothesis =>
    have others := inductionHypothesis fun other later => same other (List.mem_cons_of_mem _ later)
    funext name
    rw [decimalsMembers, denoteMembers, denoteMembers, same member List.mem_cons_self, others]

/-- The column keeps the meaning of a document. -/
theorem decimals_meaning (document : Value) : document.decimals.denote = document.denote := by
  induction document using Value.induct with
  | float number => exact (decimalNumber_meaning number).1
  | list items each =>
    rw [decimals, denote, denote, denoteItems_map, denoteItems_map, decimalsItems_map, List.map_map]
    exact congrArg Json.arr (List.map_congr_left fun item member => each item member)
  | dict members each => rw [decimals, denote, denote, denoteMembers_decimals each]
  | _ => rfl

/-- A kept document is as well formed as it was. -/
theorem decimals_wellFormed {document : Value} (stated : document.WellFormed) :
    document.decimals.WellFormed := by
  induction document using Value.induct with
  | float number => exact (decimalNumber_meaning number).2
  | list items each =>
    have known := wellFormedItems_iff.mp stated
    rw [decimals, decimalsItems_map]
    refine wellFormedItems_iff.mpr fun item member => ?_
    obtain ⟨old, present, rfl⟩ := List.mem_map.mp member
    exact each old present (known old present)
  | dict members each =>
    obtain ⟨distinct, known⟩ := stated
    rw [wellFormedMembers_iff] at known
    rw [decimals, decimalsMembers_map]
    refine ⟨by rwa [List.map_map], wellFormedMembers_iff.mpr fun member listed => ?_⟩
    obtain ⟨old, present, rfl⟩ := List.mem_map.mp listed
    exact ⟨(known old present).1, each old present (known old present).2⟩
  | tuple => exact absurd stated id
  | foreign => exact absurd stated id
  | _ => trivial

end Value

/-- The sample deployment with such a column. -/
def Env.decimal : Env :=
  { Env.sample with
    jsonb := fun document => some document.decimals
    jsonb_accepts := fun document _ => ⟨document.decimals, rfl⟩
    jsonb_restores := by
      rintro document stored wellFormed ⟨⟩
      exact ⟨Value.decimals_meaning document, Value.decimals_wellFormed wellFormed⟩ }

/-- `1e+16`. -/
def PyFloat.tenQuadrillion : PyFloat :=
  .finite false { Decimal.fixed 1 [] 0 [] with
    fraction := none
    exponent := some (false, [1, 6])
    fraction_present := by decide
    exponent_present := by decide }

/-- `0.5`. -/
def PyFloat.half : PyFloat := .finite false (.fixed 0 [] 5 [])

example : (Value.float .tenQuadrillion).decimals = .int 10000000000000000 := rfl

end TaxStamps
