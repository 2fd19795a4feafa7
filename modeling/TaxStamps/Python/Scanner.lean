import TaxStamps.Crypto.JcsNumbers
import TaxStamps.Library.Separated
import TaxStamps.Python.Objects

/-!
# Reading a JSON text

`json.loads` of a string or of bytes: the detection of the encoding, the scanner
of values and the check that nothing follows. A number without fraction and
exponent is read exactly, any other as the nearest double. An escaped pair of
surrogates is joined, a raw one is not; of equal keys the last one counts.

The double nearest to a rational and the encodings beside UTF-8 are parameters.
The recursion limit of the interpreter is not modelled: the depth that the
scanner is given is the length of the text, which no nesting exceeds.
-/

namespace TaxStamps.Scanner

open Jcs

/-- What `json.detect_encoding` answers. -/
inductive Encoding
  | utf8 | utf8Sig | utf16 | utf16be | utf16le | utf32 | utf32be | utf32le
deriving DecidableEq, Repr

/-- What the interpreter brings: the double nearest to a signed number, and
`bytes.decode`. The texts that `repr` prints for doubles read back as they are. -/
structure Interpreter where
  nearest : Bool → ℚ → PyFloat
  printed : Decimal → Prop
  nearest_printed : ∀ negative rep, printed rep →
    (nearest negative rep.magnitude).number? = (PyFloat.finite negative rep).number?
  decode : Encoding → Bytes → Result PyStr

section Strings

/-- The character that escapes the next one. -/
def backslash : Code := .scalar (Char.ofNat 92)

/-- The number a hexadecimal digit stands for. -/
def hexDigitValue? : Code → Option Nat
  | .scalar char =>
    if 48 ≤ char.toNat ∧ char.toNat ≤ 57 then some (char.toNat - 48)
    else if 97 ≤ char.toNat ∧ char.toNat ≤ 102 then some (char.toNat - 87)
    else if 65 ≤ char.toNat ∧ char.toNat ≤ 70 then some (char.toNat - 55)
    else none
  | .lone _ => none

/-- Four hexadecimal digits. -/
def codeUnit? : PyStr → Option (Nat × PyStr)
  | first :: second :: third :: fourth :: rest => do
    let first ← hexDigitValue? first
    let second ← hexDigitValue? second
    let third ← hexDigitValue? third
    let fourth ← hexDigitValue? fourth
    some (4096 * first + 256 * second + 16 * third + fourth, rest)
  | _ => none

/-- The code point of a code unit. -/
def ofUnit (unit : Nat) : Code :=
  if 0xD800 ≤ unit ∧ unit < 0xE000 then .lone (Fin.ofNat 2048 (unit - 0xD800))
  else .scalar (Char.ofNat unit)

/-- What follows `\u`. An escaped low surrogate joins the high one before it. -/
def unicodeEscape (text : PyStr) : Option (Code × PyStr) :=
  match codeUnit? text with
  | none => none
  | some (unit, rest) =>
    if 0xD800 ≤ unit ∧ unit < 0xDC00 ∧ rest.take 2 = [backslash, .scalar 'u'] then
      match codeUnit? (rest.drop 2) with
      | none => none
      | some (low, tail) =>
        if 0xDC00 ≤ low ∧ low < 0xE000 then
          some (.scalar (Char.ofNat (0x10000 + (unit - 0xD800) * 0x400 + (low - 0xDC00))), tail)
        else some (ofUnit unit, rest)
    else some (ofUnit unit, rest)

/-- The escapes of one character. -/
def simpleEscape? : Code → Option Code
  | .scalar 'b' => some (.scalar (Char.ofNat 8))
  | .scalar 'f' => some (.scalar (Char.ofNat 12))
  | .scalar 'n' => some (.scalar (Char.ofNat 10))
  | .scalar 'r' => some (.scalar (Char.ofNat 13))
  | .scalar 't' => some (.scalar (Char.ofNat 9))
  | .scalar '/' => some (.scalar '/')
  | code => if code = quote ∨ code = backslash then some code else none

/-- A character of a string or an escape. A control character is refused. -/
def readCode : PyStr → Option (Code × PyStr)
  | [] => none
  | first :: rest =>
    if first = backslash then
      match rest with
      | [] => none
      | .scalar 'u' :: rest => unicodeEscape rest
      | code :: rest => (simpleEscape? code).map (fun meant => (meant, rest))
    else if first.ord < 0x20 then none
    else some (first, rest)

/-- `scanstring`: the rest of a string, after its opening quote. -/
def scanString : Nat → PyStr → Option (PyStr × PyStr)
  | 0, _ => none
  | _ + 1, [] => none
  | count + 1, first :: rest =>
    if first = quote then some ([], rest)
    else match readCode (first :: rest) with
      | none => none
      | some (code, rest) => (scanString count rest).map (fun others => (code :: others.1, others.2))

end Strings

section Numbers

/-- The groups of a number literal: the digits of the fraction without its point
and the exponent with its sign, empty when the group is absent. -/
structure NumberLiteral where
  negative : Bool
  whole : PyStr
  fraction : PyStr
  exponent : PyStr

/-- The rational without its sign. -/
def NumberLiteral.magnitude (literal : NumberLiteral) : ℚ :=
  (digitsNat (literal.whole ++ literal.fraction) : ℚ) *
    (10 : ℚ) ^ (signedInt literal.exponent - (literal.fraction.length : Int))

/-- Digits that do not begin with a superfluous zero. -/
def scanWhole : PyStr → Option (PyStr × PyStr)
  | .scalar '0' :: rest => some ([.scalar '0'], rest)
  | text => if (text.span digitCode).1 = [] then none else some (text.span digitCode)

/-- The digits behind a point, if there are any. -/
def scanFraction : PyStr → PyStr × PyStr
  | .scalar '.' :: rest =>
    if (rest.span digitCode).1 = [] then ([], .scalar '.' :: rest) else rest.span digitCode
  | text => ([], text)

/-- An optional sign and what follows it. -/
def splitSign : PyStr → PyStr × PyStr
  | .scalar '+' :: rest => ([.scalar '+'], rest)
  | .scalar '-' :: rest => ([.scalar '-'], rest)
  | rest => ([], rest)

/-- The exponent with its sign, if it has digits. -/
def scanExponent : PyStr → PyStr × PyStr
  | [] => ([], [])
  | mark :: rest =>
    if mark = .scalar 'e' ∨ mark = .scalar 'E' then
      if ((splitSign rest).2.span digitCode).1 = [] then ([], mark :: rest)
      else ((splitSign rest).1 ++ ((splitSign rest).2.span digitCode).1,
        ((splitSign rest).2.span digitCode).2)
    else ([], mark :: rest)

/-- The sign of a number literal and what follows it. -/
def splitMinus : PyStr → Bool × PyStr
  | .scalar '-' :: rest => (true, rest)
  | rest => (false, rest)

/-- `NUMBER_RE`. -/
def scanNumber (text : PyStr) : Option (NumberLiteral × PyStr) :=
  match scanWhole (splitMinus text).2 with
  | none => none
  | some (whole, rest) =>
    some (⟨(splitMinus text).1, whole, (scanFraction rest).1, (scanExponent (scanFraction rest).2).1⟩,
      (scanExponent (scanFraction rest).2).2)

/-- `parse_int` or `parse_float`. `int` refuses more than 4300 digits. -/
def NumberLiteral.value? (interpreter : Interpreter) (literal : NumberLiteral) : Option Value :=
  if literal.fraction = [] ∧ literal.exponent = [] then
    if 4300 < literal.whole.length then none
    else some (.int (if literal.negative then -(digitsNat literal.whole : Int)
      else digitsNat literal.whole))
  else some (.float (interpreter.nearest literal.negative literal.magnitude))

end Numbers

section Values

variable (interpreter : Interpreter)

/-- A blank. -/
def blank (code : Code) : Bool :=
  decide (code ∈ [Code.scalar ' ', .scalar (Char.ofNat 9), .scalar (Char.ofNat 10),
    .scalar (Char.ofNat 13)])

/-- The text behind the white space. -/
def skipBlanks (text : PyStr) : PyStr := text.dropWhile blank

/-- A word at the beginning of the text. -/
def scanWord (text : PyStr) : List (String × Value) → Option (Value × PyStr)
  | [] => none
  | (word, value) :: others =>
    if text.take (py word).length = py word then some (value, text.drop (py word).length)
    else scanWord text others

/-- The words of JSON and their values. -/
def words : List (String × Value) := [("null", .none), ("true", .bool true), ("false", .bool false)]

/-- What Python reads beside the numbers of JSON. -/
def constants : List (String × Value) :=
  [("NaN", .float .nan), ("Infinity", .float (.infinity false)), ("-Infinity", .float (.infinity true))]

/-- A key, a colon and a value. -/
def scanMember (value : PyStr → Option (Value × PyStr)) : PyStr → Option ((Key × Value) × PyStr)
  | [] => none
  | first :: rest =>
    if first = quote then
      match scanString rest.length rest with
      | none => none
      | some (name, rest) =>
        match skipBlanks rest with
        | .scalar ':' :: rest =>
          (value (skipBlanks rest)).map (fun read => ((.str name, read.1), read.2))
        | _ => none
    else none

/-- The rest of an array or an object, after its bracket. -/
def scanSequence {α : Type} (element : PyStr → Option (α × PyStr)) (close : Code) (text : PyStr) :
    Option (List α × PyStr) :=
  match skipBlanks text with
  | [] => none
  | first :: rest =>
    if first = close then some ([], rest)
    else Separated.read skipBlanks (.scalar ',') close element (first :: rest).length (first :: rest)

/-- `scan_once`. -/
def scanOnce : Nat → PyStr → Option (Value × PyStr)
  | 0, _ => none
  | _ + 1, [] => none
  | depth + 1, first :: rest =>
    if first = quote then
      (scanString rest.length rest).map (fun read => (.str read.1, read.2))
    else if first = .scalar '\x7b' then
      (scanSequence (scanMember (scanOnce depth)) (.scalar '\x7d') rest).map
        (fun read => (.dict (Value.ofPairs read.1), read.2))
    else if first = .scalar '[' then
      (scanSequence (scanOnce depth) (.scalar ']') rest).map (fun read => (.list read.1, read.2))
    else match scanWord (first :: rest) words with
      | some read => some read
      | none =>
        match scanNumber (first :: rest) with
        | some (literal, rest) => (literal.value? interpreter).map (fun value => (value, rest))
        | none => scanWord (first :: rest) constants

/-- `JSONDecoder.decode`. -/
def decodeText (text : PyStr) : Result Value :=
  match scanOnce interpreter text.length (skipBlanks text) with
  | none => .error .valueError
  | some (value, rest) => if skipBlanks rest = [] then .ok value else .error .valueError

end Values

section Bytes

/-- `json.detect_encoding`. -/
def detectEncoding (data : Bytes) : Encoding :=
  if data.take 4 = [0, 0, 0xFE, 0xFF] ∨ data.take 4 = [0xFF, 0xFE, 0, 0] then .utf32
  else if data.take 2 = [0xFE, 0xFF] ∨ data.take 2 = [0xFF, 0xFE] then .utf16
  else if data.take 3 = [0xEF, 0xBB, 0xBF] then .utf8Sig
  else match data with
    | [first, second] =>
      if first = 0 then .utf16be else if second = 0 then .utf16le else .utf8
    | first :: second :: third :: fourth :: _ =>
      if first = 0 then if second ≠ 0 then .utf16be else .utf32be
      else if second = 0 then if third ≠ 0 ∨ fourth ≠ 0 then .utf16le else .utf32le
      else .utf8
    | _ => .utf8

/-- A surrogate in three bytes, which `surrogatepass` lets through. -/
def surrogate? : Bytes → Option (Code × Bytes)
  | 0xED :: second :: third :: rest =>
    if 0xA0 ≤ second ∧ second < 0xC0 ∧ 0x80 ≤ third ∧ third < 0xC0 then
      some (ofUnit (0xD000 + (second.toNat - 0x80) * 0x40 + (third.toNat - 0x80)), rest)
    else none
  | _ => none

/-- `data.decode("utf-8", "surrogatepass")`. -/
def decodeUtf8 : Nat → Bytes → Option PyStr
  | _, [] => some []
  | 0, _ => none
  | count + 1, data =>
    match data.toByteArray.utf8DecodeChar? 0 with
    | some char => (decodeUtf8 count (data.drop char.utf8Size)).map (fun text => .scalar char :: text)
    | none =>
      match surrogate? data with
      | some (code, rest) => (decodeUtf8 count rest).map (fun text => code :: text)
      | none => none

variable (interpreter : Interpreter)

/-- The text of bytes: UTF-8 as modelled here, the other encodings as the interpreter reads
them. -/
def decodeBytes (data : Bytes) : Result PyStr :=
  match detectEncoding data with
  | .utf8 =>
    match decodeUtf8 data.length data with
    | some text => .ok text
    | none => .error .valueError
  | encoding => interpreter.decode encoding data

/-- `bytes | str`. -/
inductive Raw
  | bytes (data : Bytes)
  | str (text : PyStr)

/-- `json.loads`. A string may not begin with a byte-order mark. -/
def loads : Raw → Result Value
  | .bytes data => do
    let text ← decodeBytes interpreter data
    decodeText interpreter text
  | .str text =>
    if text.head? = some (.scalar (Char.ofNat 0xFEFF)) then .error .valueError
    else decodeText interpreter text

end Bytes

end TaxStamps.Scanner
