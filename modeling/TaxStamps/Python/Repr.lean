import Mathlib.Data.Rat.Floor
import TaxStamps.Python.Value

/-!
# The text and the integer part of a JSON value

`str` and `repr` of a value as `json.loads` builds it, and the integer part of a
double. The text `repr` prints for a double from 2^53 on is the shortest that
reads back as it, so the double is the nearest multiple of its spacing, and of
two equally near ones the even one.
-/

namespace TaxStamps

/-- `repr` of a float. -/
def PyFloat.text : PyFloat → PyStr
  | .nan => py "nan"
  | .infinity negative => (if negative then py "-" else []) ++ py "inf"
  | .finite negative rep => (if negative then py "-" else []) ++ rep.text

/-- The nearest multiple of a spacing; of two equally near ones, the even one. -/
def nearestMultiple (spacing number : Nat) : Nat :=
  let below := number / spacing
  let excess := number % spacing
  if 2 * excess < spacing ∨ (2 * excess = spacing ∧ below % 2 = 0) then below * spacing
  else (below + 1) * spacing

/-- The integer part of the double that has the text. -/
def Decimal.integerPart (rep : Decimal) : Nat :=
  let whole := rep.magnitude.floor.toNat
  if whole < 2 ^ 53 then whole else nearestMultiple (2 ^ (Nat.log2 whole - 52)) whole

namespace Value

mutual

/-- `repr(value)`. -/
def repr (tables : Unicode) : Value → PyStr
  | .none => py "None"
  | .bool true => py "True"
  | .bool false => py "False"
  | .int value => PyStr.decimalInt value
  | .float value => value.text
  | .str value => tables.repr value
  | .list items => py "[" ++ (PyStr.join (py ", ") (reprItems tables items) ++ py "]")
  | .tuple [item] => py "(" ++ (repr tables item ++ py ",)")
  | .tuple items => py "(" ++ (PyStr.join (py ", ") (reprItems tables items) ++ py ")")
  | .dict members => py "\x7b" ++ (PyStr.join (py ", ") (reprMembers tables members) ++ py "\x7d")
  | .foreign typeName => typeName

/-- The texts of the elements. -/
def reprItems (tables : Unicode) : List Value → List PyStr
  | [] => []
  | item :: rest => repr tables item :: reprItems tables rest

/-- A JSON object has string keys. -/
def reprMembers (tables : Unicode) : List (Key × Value) → List PyStr
  | [] => []
  | (.str name, value) :: rest =>
    (tables.repr name ++ (py ": " ++ repr tables value)) :: reprMembers tables rest
  | (.other _, value) :: rest => (py ": " ++ repr tables value) :: reprMembers tables rest

end

/-- `str(value)`. -/
def toStr (tables : Unicode) : Value → PyStr
  | .str value => value
  | other => repr tables other

example : toStr .ascii (.list [.int (-5), .dict [(key "a", .bool true)], .none]) =
    py "[-5, \x7b'a': True\x7d, None]" := by decide

end Value

end TaxStamps
