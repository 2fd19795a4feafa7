import Mathlib.Data.List.Basic
import Mathlib.Data.Nat.Digits.Defs

/-!
# Python strings

A Python string is a sequence of code points, lone surrogates included: a JSON
body may carry one, PostgreSQL and UTF-8 refuse it. Literals of the service are
written as Lean strings and coerced.

CPython's Unicode tables are parameters. Only their ASCII part is fixed, because
only that part decides what the service accepts.
-/

namespace TaxStamps

/-- A code point: a Unicode scalar value, or the surrogate U+D800 + offset. -/
inductive Code
  | scalar (char : Char)
  | lone (offset : Fin 2048)
deriving DecidableEq, Repr

/-- A `str`: code points, lone surrogates included. -/
abbrev PyStr := List Code

/-- Equality of texts is that of their code points. -/
instance : LawfulBEq PyStr := inferInstance

/-- A literal of the source. They are ASCII, one byte a character. -/
def py (text : String) : PyStr :=
  text.toByteArray.data.toList.map (fun byte => Code.scalar (Char.ofNat byte.toNat))

/-- A literal is a text. -/
instance : Coe String PyStr := ⟨py⟩

/-- A `bytes` object. -/
abbrev Bytes := List UInt8

namespace Code

/-- `ord`. -/
def ord : Code → Nat
  | .scalar char => char.toNat
  | .lone offset => 0xD800 + offset.val

/-- The ASCII digit of a number below ten. -/
def digit (value : Nat) : Code := .scalar (Char.ofNat (48 + value))

/-- The number an ASCII digit stands for. -/
def digitValue? : Code → Option Nat
  | .scalar char => if 48 ≤ char.toNat ∧ char.toNat ≤ 57 then some (char.toNat - 48) else none
  | .lone _ => none

/-- A Unicode scalar value. -/
def isScalar : Code → Bool
  | .scalar _ => true
  | .lone _ => false

/-- A text column and a JSONB document refuse NUL and lone surrogates. -/
def storable : Code → Bool
  | .scalar char => decide (char.toNat ≠ 0)
  | .lone _ => false

/-- A character that a column stores is no lone surrogate. -/
theorem storable_scalar {code : Code} (taken : code.storable = true) : code.isScalar = true := by
  cases code with
  | scalar char => rfl
  | lone offset => cases taken

/-- The digit of a value below ten is read back as it. -/
theorem digit_value : ∀ value < 10, digitValue? (digit value) = some value := by decide

/-- Digits can be stored. -/
theorem digit_storable : ∀ value < 10, (digit value).storable = true := by decide

end Code

/-- CPython's tables behind `str.isspace`, `str.upper`, `str.isdigit`, the
decimal digits of `\d` and `int`, and `repr` of a string. -/
structure Unicode where
  isSpace : Code → Bool
  upper : Code → PyStr
  isDigit : Code → Bool
  decimal : Code → Option Nat
  repr : PyStr → PyStr
  isSpace_ascii : ∀ char : Char, char.toNat < 128 →
    isSpace (.scalar char) = (decide (char.toNat = 32) || decide (9 ≤ char.toNat ∧ char.toNat ≤ 13) ||
      decide (28 ≤ char.toNat ∧ char.toNat ≤ 31))
  upper_ascii : ∀ char : Char, char.toNat < 128 → upper (.scalar char) = [.scalar char.toUpper]
  isDigit_ascii : ∀ char : Char, char.toNat < 128 →
    isDigit (.scalar char) = decide (48 ≤ char.toNat ∧ char.toNat ≤ 57)
  decimal_ascii : ∀ char : Char, char.toNat < 128 →
    decimal (.scalar char) = Code.digitValue? (.scalar char)

/-- The tables of a build that knows ASCII only. -/
def Unicode.ascii : Unicode where
  isSpace
    | .scalar char => decide (char.toNat = 32) || decide (9 ≤ char.toNat ∧ char.toNat ≤ 13) ||
        decide (28 ≤ char.toNat ∧ char.toNat ≤ 31)
    | .lone _ => false
  upper
    | .scalar char => [.scalar char.toUpper]
    | .lone offset => [.lone offset]
  isDigit
    | .scalar char => decide (48 ≤ char.toNat ∧ char.toNat ≤ 57)
    | .lone _ => false
  decimal := Code.digitValue?
  repr text := py "'" ++ text ++ py "'"
  isSpace_ascii _ _ := rfl
  upper_ascii _ _ := rfl
  isDigit_ascii _ _ := rfl
  decimal_ascii _ _ := rfl

namespace PyStr

/-- A text without the characters at its ends that are to be removed. -/
def trim (removed : Code → Bool) (text : PyStr) : PyStr :=
  ((text.dropWhile removed).reverse.dropWhile removed).reverse

/-- `str.strip`. -/
def strip (tables : Unicode) (text : PyStr) : PyStr := trim tables.isSpace text

/-- A text without such characters is left as it is. -/
theorem trim_fixed {removed : Code → Bool} {text : PyStr} (kept : ∀ code ∈ text, removed code = false) :
    trim removed text = text := by
  have solid : ∀ text : PyStr, (∀ code ∈ text, removed code = false) → text.dropWhile removed = text := by
    intro text each
    cases text with
    | nil => rfl
    | cons code rest =>
      rw [List.dropWhile_cons_of_neg]
      rw [each code List.mem_cons_self]
      decide
  rw [trim, solid text kept, solid text.reverse (fun code member => kept code (List.mem_reverse.mp member)),
    List.reverse_reverse]

/-- `str.upper`. -/
def upper (tables : Unicode) (text : PyStr) : PyStr := text.flatMap tables.upper

/-- `sep.join(parts)`. -/
def join (separator : PyStr) : List PyStr → PyStr
  | [] => []
  | [part] => part
  | part :: rest => part ++ separator ++ join separator rest

/-- `str(n)` of a natural number. -/
def decimal (number : Nat) : PyStr :=
  if number = 0 then [Code.digit 0] else (Nat.digits 10 number).reverse.map Code.digit

/-- `str(n)` of an integer. -/
def decimalInt (number : Int) : PyStr :=
  if number < 0 then .scalar '-' :: decimal number.natAbs else decimal number.natAbs

/-- The first natural number that `str` does not write: it has 4301 digits. -/
@[irreducible] def digitLimit : Nat := 10 ^ 4300

/-- Numbers of a few digits are written. -/
theorem lt_digitLimit {number width : Nat} (short : number < 10 ^ width) (narrow : width ≤ 4300) :
    number < digitLimit := by
  have longer : ∀ size, width ≤ size → number < 10 ^ size := fun size wide =>
    Nat.lt_of_lt_of_le short (Nat.pow_le_pow_right (by decide) wide)
  unfold digitLimit
  exact longer 4300 narrow

/-- `f"{number:0{width}d}"` of a natural number. -/
def zeroPad (width number : Nat) : PyStr :=
  List.replicate (width - (decimal number).length) (Code.digit 0) ++ decimal number

/-- A number is written in characters that every column accepts. -/
theorem decimal_storable (number : Nat) : (decimal number).all Code.storable = true := by
  unfold decimal
  split
  · rfl
  · rw [List.all_map, List.all_reverse, List.all_eq_true]
    intro digit member
    exact Code.digit_storable digit (Nat.digits_lt_base (by omega) member)

/-- A padded number can be stored. -/
theorem zeroPad_storable (width number : Nat) : (zeroPad width number).all Code.storable = true := by
  rw [zeroPad, List.all_append, decimal_storable, Bool.and_true, List.all_eq_true]
  intro code member
  rw [(List.mem_replicate.mp member).2]
  rfl

/-- A text column of the given length accepts the text. -/
def fits (length : Nat) (text : PyStr) : Bool :=
  decide (text.length ≤ length) && text.all Code.storable

end PyStr

end TaxStamps
