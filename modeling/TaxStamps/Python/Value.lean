import Mathlib.Algebra.Order.Field.Rat
import Mathlib.Algebra.Field.Basic
import TaxStamps.Python.Error

/-!
# Python values and the JSON values they stand for

`Value` is what `json.loads` returns and what the canonicalizer is given: the
members of a dict keep their insertion order. A float is a sign and the text
`repr` prints for its magnitude, which determines the double.

`Json` is the meaning of a value: an object is a function from member names, so
member order disappears, and a number is a rational, so `5` and `5.0` are one
number. Two values are JSON-equal when they denote the same `Json`.
-/

namespace TaxStamps

/-- Digits are written as numerals. -/
instance tenNonzero : NeZero (10 : Nat) := ⟨by decide⟩

/-- The decimal text `repr` prints for a finite, non-negative double: digits,
optionally a point and digits, optionally an exponent with its sign. -/
structure Decimal where
  whole : List (Fin 10)
  fraction : Option (List (Fin 10))
  exponent : Option (Bool × List (Fin 10))
  whole_present : whole ≠ []
  fraction_present : fraction ≠ some []
  exponent_present : ∀ negative, exponent ≠ some (negative, [])
deriving DecidableEq

namespace Decimal

/-- A number without an exponent has no empty one. -/
theorem unscaled (negative : Bool) : (none : Option (Bool × List (Fin 10))) ≠ some (negative, []) := by
  simp

/-- A text without an exponent, by the digits before and after the point. -/
def fixed (first : Fin 10) (rest : List (Fin 10)) (tenth : Fin 10) (others : List (Fin 10)) : Decimal where
  whole := first :: rest
  fraction := some (tenth :: others)
  exponent := none
  whole_present := by simp
  fraction_present := by simp
  exponent_present := unscaled

/-- The text of digit values. -/
def digits (values : List (Fin 10)) : PyStr := values.map (fun value => Code.digit value.val)

/-- The value of a digit sequence, most significant digit first. -/
def natValue (values : List (Fin 10)) : Nat := values.foldl (fun total value => 10 * total + value.val) 0

/-- `repr` of the double. -/
def text (number : Decimal) : PyStr :=
  digits number.whole ++
    (match number.fraction with
      | none => []
      | some values => .scalar '.' :: digits values) ++
    (match number.exponent with
      | none => []
      | some (negative, values) =>
        .scalar 'e' :: .scalar (if negative then '-' else '+') :: digits values)

/-- The value of the exponent, zero without one. -/
def exponentValue (number : Decimal) : Int :=
  match number.exponent with
  | none => 0
  | some (negative, values) => if negative then -(natValue values : Int) else natValue values

/-- The digits behind the point, none without one. -/
def fractionDigits (number : Decimal) : List (Fin 10) := number.fraction.getD []

/-- The number the text denotes. -/
def magnitude (number : Decimal) : ℚ :=
  (natValue (number.whole ++ number.fractionDigits) : ℚ) *
    (10 : ℚ) ^ (number.exponentValue - (number.fractionDigits.length : Int))

end Decimal

/-- A `float`: finite ones are given by the text that `repr` writes. -/
inductive PyFloat
  | nan
  | infinity (negative : Bool)
  | finite (negative : Bool) (rep : Decimal)
deriving DecidableEq

/-- The number a finite float denotes. -/
def PyFloat.number? : PyFloat → Option ℚ
  | .nan => none
  | .infinity _ => none
  | .finite negative rep => some (if negative then -rep.magnitude else rep.magnitude)

/-- A dict key: a string, or a key of another hashable type, which nothing
reads. -/
inductive Key
  | str (name : PyStr)
  | other (tag : Nat)
deriving DecidableEq, Repr

/-- A string key of the source. -/
abbrev key (name : String) : Key := .str (py name)

/-- Python values. A foreign object carries the name of its type. -/
inductive Value
  | none
  | bool (value : Bool)
  | int (value : Int)
  | float (value : PyFloat)
  | str (value : PyStr)
  | list (items : List Value)
  | tuple (items : List Value)
  | dict (members : List (Key × Value))
  | foreign (typeName : PyStr)

namespace Value

/-- Induction over a value's items and members. -/
@[elab_as_elim]
theorem induct {motive : Value → Prop} (none : motive .none) (bool : ∀ value, motive (.bool value))
    (int : ∀ value, motive (.int value)) (float : ∀ value, motive (.float value))
    (str : ∀ value, motive (.str value))
    (list : ∀ items, (∀ item ∈ items, motive item) → motive (.list items))
    (tuple : ∀ items, (∀ item ∈ items, motive item) → motive (.tuple items))
    (dict : ∀ members, (∀ member ∈ members, motive member.2) → motive (.dict members))
    (foreign : ∀ typeName, motive (.foreign typeName)) (value : Value) : motive value := by
  refine @Value.rec motive (fun items => ∀ item ∈ items, motive item)
    (fun members => ∀ member ∈ members, motive member.2) (fun member => motive member.2)
    none bool int float str list tuple dict foreign ?_ ?_ ?_ ?_ ?_ value
  · intro item absent
    cases absent
  · intro head tail headHolds tailHolds item member
    rcases List.mem_cons.mp member with rfl | later
    · exact headHolds
    · exact tailHolds item later
  · intro member absent
    cases absent
  · intro head tail headHolds tailHolds item member
    rcases List.mem_cons.mp member with rfl | later
    · exact headHolds
    · exact tailHolds item later
  · intro _ _ holds
    exact holds

/-- The value stored under a key; the first of equal keys, which a dict cannot
hold. -/
def lookup (key : Key) : List (Key × Value) → Option Value
  | [] => Option.none
  | (name, value) :: rest => if name = key then some value else lookup key rest

/-- `value.get(name)`, where only a dict has `get`. -/
def get? (value : Value) (name : PyStr) : Result (Option Value) :=
  match value with
  | .dict members => .ok (lookup (.str name) members)
  | _ => .error .attributeError

/-- `bool(value)`. -/
def truthy : Value → Bool
  | .none => false
  | .bool value => value
  | .int value => decide (value ≠ 0)
  | .float value => decide (value.number? ≠ some 0)
  | .str value => !value.isEmpty
  | .list items => !items.isEmpty
  | .tuple items => !items.isEmpty
  | .dict members => !members.isEmpty
  | .foreign _ => true

/-- `{k: v for k, v in members.items() if k != name}`. -/
def without (name : PyStr) (members : List (Key × Value)) : List (Key × Value) :=
  members.filter (fun member => decide (member.1 ≠ .str name))

/-- A dict literal of the source. -/
def object (members : List (String × Value)) : Value :=
  .dict (members.map (fun member => (key member.1, member.2)))

/-- A string literal of the source. -/
def literal (text : String) : Value := .str (py text)

/-- Looking up an absent key of a filtered dict. -/
theorem lookup_without_same (name : PyStr) (members : List (Key × Value)) :
    lookup (.str name) (without name members) = Option.none := by
  induction members with
  | nil => rfl
  | cons head tail inductionHypothesis =>
    by_cases same : head.1 = .str name
    · simpa [without, same] using inductionHypothesis
    · simpa [without, same, lookup] using inductionHypothesis

/-- Removing one key leaves every other lookup. -/
theorem lookup_without_other {name : PyStr} {key : Key} (different : key ≠ .str name)
    (members : List (Key × Value)) : lookup key (without name members) = lookup key members := by
  induction members with
  | nil => rfl
  | cons head tail inductionHypothesis =>
    by_cases same : head.1 = .str name
    · have skipped : head.1 ≠ key := fun equal => different (equal.symm.trans same)
      simpa [without, same, lookup, skipped, Ne.symm different] using inductionHypothesis
    · by_cases found : head.1 = key
      · simp [without, lookup, found, different]
      · simpa [without, same, lookup, found] using inductionHypothesis

end Value

/-- The meaning of a JSON text. `alien` is what no JSON text carries. -/
inductive Json
  | null
  | bool (value : Bool)
  | num (value : ℚ)
  | str (value : PyStr)
  | arr (items : List Json)
  | obj (members : PyStr → Option Json)
  | alien

namespace Value

mutual

/-- The JSON value a Python value stands for. -/
def denote : Value → Json
  | .none => .null
  | .bool value => .bool value
  | .int value => .num value
  | .float value => match value.number? with
    | some number => .num number
    | Option.none => .alien
  | .str value => .str value
  | .list items => .arr (denoteItems items)
  | .tuple items => .arr (denoteItems items)
  | .dict members => .obj (denoteMembers members)
  | .foreign _ => .alien

/-- What the elements denote. -/
def denoteItems : List Value → List Json
  | [] => []
  | item :: rest => denote item :: denoteItems rest

/-- What the member of a name denotes; of equal names the first counts. -/
def denoteMembers : List (Key × Value) → PyStr → Option Json
  | [], _ => Option.none
  | (key, value) :: rest, name => if key = .str name then some (denote value) else denoteMembers rest name

end

/-- Each element is denoted by itself. -/
theorem denoteItems_map (items : List Value) : denoteItems items = items.map denote := by
  induction items with
  | nil => rfl
  | cons item rest inductionHypothesis => simp [denoteItems, inductionHypothesis]

/-- The denoted member is the one that is looked up. -/
theorem denoteMembers_lookup (members : List (Key × Value)) (name : PyStr) :
    denoteMembers members name = (lookup (.str name) members).map denote := by
  induction members with
  | nil => rfl
  | cons member rest inductionHypothesis =>
    obtain ⟨key, value⟩ := member
    by_cases same : key = .str name
    · simp [denoteMembers, lookup, same]
    · simp [denoteMembers, lookup, same, inductionHypothesis]

/-- Two values are the same JSON value. -/
def JsonEq (left right : Value) : Prop := left.denote = right.denote

mutual

/-- A JSON value as `json.loads` builds it: lists instead of tuples, no foreign
object, and every dict has string keys, pairwise distinct, at every depth. -/
def WellFormed : Value → Prop
  | .list items => WellFormedItems items
  | .tuple _ => False
  | .dict members => (members.map Prod.fst).Nodup ∧ WellFormedMembers members
  | .foreign _ => False
  | _ => True

/-- Every element is well formed. -/
def WellFormedItems : List Value → Prop
  | [] => True
  | item :: rest => WellFormed item ∧ WellFormedItems rest

/-- Every member has a text for a name and a well-formed value. -/
def WellFormedMembers : List (Key × Value) → Prop
  | [] => True
  | (key, value) :: rest => (∃ name, key = .str name) ∧ WellFormed value ∧ WellFormedMembers rest

end

/-- Well-formedness of the elements, one by one. -/
theorem wellFormedItems_iff {items : List Value} :
    WellFormedItems items ↔ ∀ item ∈ items, item.WellFormed := by
  induction items with
  | nil => simp [WellFormedItems]
  | cons item rest inductionHypothesis => simp [WellFormedItems, inductionHypothesis]

/-- Well-formedness of the members, one by one. -/
theorem wellFormedMembers_iff {members : List (Key × Value)} :
    WellFormedMembers members ↔
      ∀ member ∈ members, (∃ name, member.1 = .str name) ∧ member.2.WellFormed := by
  induction members with
  | nil => simp [WellFormedMembers]
  | cons member rest inductionHypothesis =>
    obtain ⟨key, value⟩ := member
    simp [WellFormedMembers, inductionHypothesis, and_assoc]

/-- What a key looks up is a member. -/
theorem mem_of_lookup {members : List (Key × Value)} {key : Key} {value : Value}
    (found : lookup key members = some value) : (key, value) ∈ members := by
  induction members with
  | nil => cases found
  | cons head rest inductionHypothesis =>
    obtain ⟨name, stored⟩ := head
    by_cases same : name = key
    · simp only [lookup, same, if_true] at found
      rw [same, Option.some.inj found]
      exact List.mem_cons_self
    · simp only [lookup, same, if_false] at found
      exact List.mem_cons_of_mem _ (inductionHypothesis found)

/-- A stored member of a dict with distinct keys is what its key looks up. -/
theorem lookup_mem {members : List (Key × Value)} (distinct : (members.map Prod.fst).Nodup)
    {key : Key} {value : Value} :
    lookup key members = some value ↔ (key, value) ∈ members := by
  induction members with
  | nil => simp [lookup]
  | cons head rest inductionHypothesis =>
    obtain ⟨name, stored⟩ := head
    obtain ⟨fresh, restDistinct⟩ := List.nodup_cons.mp distinct
    by_cases same : name = key
    · subst same
      have absent : (name, value) ∉ rest := fun member =>
        fresh (List.mem_map.mpr ⟨(name, value), member, rfl⟩)
      simp [lookup, absent, eq_comm]
    · have other : ¬ key = name := fun equal => same equal.symm
      simp [lookup, same, other, inductionHypothesis restDistinct]

section Meanings

variable {value : Value}

/-- A float denotes a number, or nothing in JSON. -/
theorem float_meaning (number : PyFloat) :
    (∃ stated, (Value.float number).denote = .num stated) ∨ (Value.float number).denote = .alien := by
  cases found : number.number? with
  | none => exact Or.inr (by simp only [denote, found])
  | some stated => exact Or.inl ⟨stated, by simp only [denote, found]⟩

/-- Only `None` means null. -/
theorem denote_null (meaning : value.denote = .null) : value = .none := by
  cases value with
  | none => rfl
  | float number =>
    rcases float_meaning number with ⟨stated, same⟩ | same <;> rw [same] at meaning <;> cases meaning
  | _ => cases meaning

/-- Only a bool means a bool. -/
theorem denote_bool {flag : Bool} (meaning : value.denote = .bool flag) : value = .bool flag := by
  cases value with
  | bool other => rw [Json.bool.inj meaning]
  | float number =>
    rcases float_meaning number with ⟨stated, same⟩ | same <;> rw [same] at meaning <;> cases meaning
  | _ => cases meaning

/-- Only a string means a string. -/
theorem denote_str {text : PyStr} (meaning : value.denote = .str text) : value = .str text := by
  cases value with
  | str other => rw [Json.str.inj meaning]
  | float number =>
    rcases float_meaning number with ⟨stated, same⟩ | same <;> rw [same] at meaning <;> cases meaning
  | _ => cases meaning

/-- A JSON value that means an array is a list. -/
theorem denote_arr (wellFormed : value.WellFormed) {meanings : List Json}
    (meaning : value.denote = .arr meanings) :
    ∃ items, value = .list items ∧ items.map denote = meanings := by
  cases value with
  | list items => exact ⟨items, rfl, by rw [← denoteItems_map]; exact Json.arr.inj meaning⟩
  | tuple => exact absurd wellFormed id
  | float number =>
    rcases float_meaning number with ⟨stated, same⟩ | same <;> rw [same] at meaning <;> cases meaning
  | _ => cases meaning

/-- Only a dict means an object. -/
theorem denote_obj {meanings : PyStr → Option Json} (meaning : value.denote = .obj meanings) :
    ∃ members, value = .dict members ∧ denoteMembers members = meanings := by
  cases value with
  | dict members => exact ⟨members, rfl, Json.obj.inj meaning⟩
  | float number =>
    rcases float_meaning number with ⟨stated, same⟩ | same <;> rw [same] at meaning <;> cases meaning
  | _ => cases meaning

/-- A member of a JSON-equal object. -/
theorem lookup_meaning {left right : List (Key × Value)} (same : (Value.dict left).JsonEq (.dict right))
    (name : PyStr) :
    (lookup (.str name) left).map denote = (lookup (.str name) right).map denote := by
  have meanings : denoteMembers left = denoteMembers right := Json.obj.inj same
  rw [← denoteMembers_lookup, ← denoteMembers_lookup, meanings]

end Meanings

end Value

end TaxStamps
