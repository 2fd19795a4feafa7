import Mathlib.Data.List.Sort
import TaxStamps.Python.Value

/-!
# JSON canonicalization

The canonicalizer of `jcs.py`. Object members are ordered by the UTF-16 bytes of
their keys, a string escapes only what must be escaped, and a number takes the
notation ECMAScript would give it. The rendering of a float works on the text of
`repr`, as the source does.

The order of failures is the order of the source: the sort looks at every key of
an object before any member is rendered.
-/

namespace TaxStamps.Jcs

/-- `max` of the integers every JSON implementation agrees on. -/
def maxSafeInteger : Int := 9007199254740991

/-- The hexadecimal digit of a value below 16. -/
def hexDigit (value : Nat) : Code := (py "0123456789abcdef").getD value (.scalar '0')

/-- The quotation mark. -/
def quote : Code := .scalar (Char.ofNat 34)

/-- One character of a string: a short escape, `\u00XX`, or itself. -/
def escapeCode (code : Code) : PyStr :=
  match code.ord with
  | 34 => py "\\\""
  | 92 => py "\\\\"
  | 8 => py "\\b"
  | 12 => py "\\f"
  | 10 => py "\\n"
  | 13 => py "\\r"
  | 9 => py "\\t"
  | value =>
    if value < 0x20 then py "\\u00" ++ [hexDigit (value / 16), hexDigit (value % 16)] else [code]

/-- `_escape_string`. -/
def escapeString (value : PyStr) : PyStr := quote :: (value.flatMap escapeCode ++ [quote])

/-- The UTF-16 code units of a code point. -/
def utf16Units : Code → List Nat
  | .scalar char =>
    if char.toNat < 0x10000 then [char.toNat]
    else [0xD800 + (char.toNat - 0x10000) / 0x400, 0xDC00 + (char.toNat - 0x10000) % 0x400]
  | .lone offset => [0xD800 + offset.val]

/-- `_utf16_sort_key`: big-endian UTF-16. -/
def utf16SortKey (value : PyStr) : List Nat :=
  (value.flatMap utf16Units).flatMap (fun unit => [unit / 256, unit % 256])

/-- `text.partition(separator)` without the separator. -/
def partition (separator : Code) (text : PyStr) : PyStr × PyStr :=
  (text.takeWhile (fun code => decide (code ≠ separator)),
    (text.dropWhile (fun code => decide (code ≠ separator))).drop 1)

/-- The number a text of digits denotes. -/
def digitsNat (text : PyStr) : Nat :=
  text.foldl (fun total code => 10 * total + (Code.digitValue? code).getD 0) 0

/-- `int` of an optional sign and digits. -/
def signedInt : PyStr → Int
  | .scalar '-' :: rest => -(digitsNat rest : Int)
  | .scalar '+' :: rest => digitsNat rest
  | rest => digitsNat rest

/-- The character is the digit zero. -/
def isZero (code : Code) : Bool := decide (code = .scalar '0')

/-- `text.rstrip("0")`. -/
def rstripZeros (text : PyStr) : PyStr := (text.reverse.dropWhile isZero).reverse

/-- Integer part, fraction part and exponent of a number text. -/
def parts (rep : PyStr) : PyStr × PyStr × Int :=
  let mantissa := (partition (.scalar 'e') rep).1
  let exponent :=
    if rep.contains (.scalar 'e') then signedInt (partition (.scalar 'e') rep).2 else 0
  ((partition (.scalar '.') mantissa).1, (partition (.scalar '.') mantissa).2, exponent)

/-- `_shortest_digits` on the text of `repr(abs(value))`. -/
def shortestDigits (rep : PyStr) : PyStr × Int :=
  let (intPart, fracPart, exponent) := parts rep
  let digits := (intPart ++ fracPart).dropWhile isZero
  let trailing := digits.length - (rstripZeros digits).length
  let stripped := rstripZeros digits
  (if stripped.isEmpty then [.scalar '0'] else stripped,
    exponent - fracPart.length + trailing)

/-- Digits and decimal exponent in the notation ECMAScript chooses. -/
def ecmaText (digits : PyStr) (exp10 : Int) : PyStr :=
  let k : Int := digits.length
  let n : Int := k + exp10
  if k ≤ n ∧ n ≤ 21 then digits ++ List.replicate (n - k).toNat (.scalar '0')
  else if 0 < n ∧ n ≤ 21 then digits.take n.toNat ++ .scalar '.' :: digits.drop n.toNat
  else if -6 < n ∧ n ≤ 0 then
    .scalar '0' :: .scalar '.' :: (List.replicate (-n).toNat (.scalar '0') ++ digits)
  else
    let mant := if k = 1 then digits else digits.take 1 ++ .scalar '.' :: digits.drop 1
    let exp := n - 1
    mant ++ .scalar 'e' :: ((if 0 ≤ exp then [.scalar '+'] else []) ++ PyStr.decimalInt exp)

/-- `_number_to_string`. -/
def numberToString : PyFloat → Result PyStr
  | .nan => .error (.canonicalizationError (py "JCS cannot represent NaN or Infinity"))
  | .infinity _ => .error (.canonicalizationError (py "JCS cannot represent NaN or Infinity"))
  | .finite negative rep =>
    if rep.magnitude = 0 then .ok (py "0")
    else
      let (digits, exp10) := shortestDigits rep.text
      .ok ((if negative then [.scalar '-'] else []) ++ ecmaText digits exp10)

/-- An integer outside the safe range is refused. Its decimal text, which the
message quotes, cannot be produced beyond 4300 digits. -/
def encodeInt (value : Int) : Result PyStr :=
  if value.natAbs ≤ maxSafeInteger.natAbs then .ok (PyStr.decimalInt value)
  else if value.natAbs < PyStr.digitLimit then
    .error (.canonicalizationError
      (py "integer " ++ PyStr.decimalInt value ++ py " exceeds IEEE-754 safe range"))
  else .error .valueError

/-- `value.is_integer() and abs(value) <= 9007199254740991`, with its integer. -/
def integral? (value : PyFloat) : Option Int :=
  match value.number? with
  | none => none
  | some number => if number.den = 1 ∧ number.num.natAbs ≤ maxSafeInteger.natAbs then some number.num else none

/-- A safe float without fractional part is written as the integer, any other by
`_number_to_string`. -/
def encodeFloat (value : PyFloat) : Result PyStr :=
  match integral? value with
  | some number => .ok (PyStr.decimalInt number)
  | none => numberToString value

/-- The name of a string key. -/
def keyName : Key → PyStr
  | .str name => name
  | .other _ => []

/-- The key is a text. -/
def isName : Key → Bool
  | .str _ => true
  | .other _ => false

/-- Members are ordered by `_utf16_sort_key` of their keys. -/
def memberLe {α : Type} (left right : Key × α) : Prop :=
  (utf16SortKey (keyName left.1)).le (utf16SortKey (keyName right.1))

/-- The order of members is decided on their sort keys. -/
instance {α : Type} : DecidableRel (@memberLe α) := fun _ _ => List.decidableLE _ _

/-- `sorted(value.items(), key=...)`. -/
def sortMembers {α : Type} (members : List (Key × α)) : List (Key × α) :=
  members.insertionSort memberLe

/-- The members of an object in order, each as `"key":value`. -/
def renderMembers : List (Key × Result PyStr) → Result (List PyStr)
  | [] => .ok []
  | (key, rendered) :: rest => do
    let value ← rendered
    let texts ← renderMembers rest
    .ok ((escapeString (keyName key) ++ .scalar ':' :: value) :: texts)

mutual

/-- `_encode`. -/
def encode : Value → Result PyStr
  | .none => .ok (py "null")
  | .bool true => .ok (py "true")
  | .bool false => .ok (py "false")
  | .str value => .ok (escapeString value)
  | .int value => encodeInt value
  | .float value => encodeFloat value
  | .list items => do
    let texts ← encodeItems items
    .ok (.scalar '[' :: (PyStr.join (py ",") texts ++ py "]"))
  | .tuple items => do
    let texts ← encodeItems items
    .ok (.scalar '[' :: (PyStr.join (py ",") texts ++ py "]"))
  | .dict members =>
    if members.all (fun member => isName member.1) then do
      let texts ← renderMembers (sortMembers (encodeMembers members))
      .ok (py "\x7b" ++ (PyStr.join (py ",") texts ++ py "\x7d"))
    else .error .attributeError
  | .foreign typeName =>
    .error (.canonicalizationError (py "unsupported type for JCS: " ++ typeName))

/-- The elements in turn, up to the first that cannot be encoded. -/
def encodeItems : List Value → Result (List PyStr)
  | [] => .ok []
  | item :: rest => do
    let text ← encode item
    let texts ← encodeItems rest
    .ok (text :: texts)

/-- Every member with its rendering, which fails only when it is reached. -/
def encodeMembers : List (Key × Value) → List (Key × Result PyStr)
  | [] => []
  | (key, value) :: rest => (key, encode value) :: encodeMembers rest

end

/-- `canonicalize`. -/
def canonicalize (value : Value) : Result PyStr := encode value

/-- The character of a code point that UTF-8 can carry. -/
def char? : Code → Option Char
  | .scalar char => some char
  | .lone _ => none

/-- `text.encode("utf-8")`. -/
def utf8 (text : PyStr) : Result Bytes :=
  match text.mapM char? with
  | some chars => .ok (chars.flatMap String.utf8EncodeChar)
  | none => .error .unicodeEncodeError

/-- `canonicalize_bytes`. -/
def canonicalizeBytes (value : Value) : Result Bytes := do
  let text ← canonicalize value
  utf8 text

/-- Each member is encoded by itself. -/
theorem encodeMembers_map (members : List (Key × Value)) :
    encodeMembers members = members.map (fun member => (member.1, encode member.2)) := by
  induction members with
  | nil => rfl
  | cons member rest inductionHypothesis => simp [encodeMembers, inductionHypothesis]

/-- Sorting by key commutes with rendering the values. -/
theorem sortMembers_map {α β : Type} (change : α → β) (members : List (Key × α)) :
    sortMembers (members.map (fun member => (member.1, change member.2))) =
      (sortMembers members).map (fun member => (member.1, change member.2)) :=
  (List.map_insertionSort memberLe memberLe (fun member : Key × α => (member.1, change member.2))
    members (fun _ _ _ _ => Iff.rfl)).symm

/-- Sorting keeps the members. -/
theorem sortMembers_perm {α : Type} (members : List (Key × α)) :
    (sortMembers members).Perm members := List.perm_insertionSort _ _

example : canonicalize (Value.object [("b", .int 2), ("a", .list [.bool true, .none])]) =
    .ok (py "\x7b\"a\":[true,null],\"b\":2\x7d") := by decide

end TaxStamps.Jcs
