import Mathlib.Data.Nat.Digits.Lemmas
import TaxStamps.Env

/-!
# Serial numbers

Serials of the form `NG-<CAT3>-<YYYY>-<SEQ10>-<CHECK>` with a Luhn check
character over a 34-symbol alphabet. Every serial the service builds is parsed
back to the category, year and sequence it was built from.
-/

namespace TaxStamps.Serials

/-- The 34 characters of a serial: digits and capitals without I and O. -/
def alphabet : PyStr := py "0123456789ABCDEFGHJKLMNPQRSTUVWXYZ"

/-- `_INDEX`. -/
def index? (code : Code) : Option Nat :=
  alphabet.findIdx? (fun other => decide (other = code))

/-- The character of an index. -/
def symbol (index : Nat) : Code := alphabet.getD index (.scalar '0')

/-- `CATEGORIES`. -/
def categories : PyStr → Option PyStr := fun category =>
  if category = py "tobacco" then some (py "TBC")
  else if category = py "alcohol" then some (py "ALC")
  else if category = py "pharmaceuticals" then some (py "PHA")
  else if category = py "beverages" then some (py "BEV")
  else none

/-- The loop over the code points, rightmost first. -/
def luhnTotal : List Nat → Nat → Nat
  | [], _ => 0
  | value :: rest, factor =>
    factor * value / 34 + factor * value % 34 + luhnTotal rest (if factor = 2 then 1 else 2)

/-- `luhn_mod_n_check`. -/
def luhnModNCheck (tables : Unicode) (body : PyStr) : Result Code :=
  match body.find? (fun code => (index? code).isNone) with
  | some code =>
    .error (.serialError (py "character " ++ tables.repr [code] ++ py " not in serial alphabet"))
  | none =>
    let total := luhnTotal (body.filterMap index?).reverse 2
    .ok (symbol ((34 - total % 34) % 34))

/-- `luhn_mod_n_validate` for a check of one character. -/
def luhnModNValidate (tables : Unicode) (body : PyStr) (check : Code) : Bool :=
  match luhnModNCheck tables body with
  | .ok expected => (index? check).isSome && decide (expected = check)
  | .error _ => false

/-- The character is a capital of ASCII. -/
def isCapital : Code → Bool
  | .scalar char => decide (65 ≤ char.toNat ∧ char.toNat ≤ 90)
  | .lone _ => false

/-- `build_serial`. -/
def buildSerial (tables : Unicode) (categoryCode : PyStr) (year sequence : Int) : Result PyStr :=
  let cat := PyStr.upper tables categoryCode
  if ¬ (cat.length = 3 ∧ cat.all isCapital = true) then
    .error (.serialError (py "invalid category code " ++ tables.repr categoryCode))
  else if ¬ (1900 ≤ year ∧ year ≤ 9999) then
    .error (.serialError (py "invalid year " ++ PyStr.decimalInt year))
  else if ¬ (0 ≤ sequence ∧ sequence ≤ 9999999999) then
    .error (.serialError (py "sequence " ++ PyStr.decimalInt sequence ++ py " out of range"))
  else do
    let yearText := PyStr.zeroPad 4 year.toNat
    let sequenceText := PyStr.zeroPad 10 sequence.toNat
    let check ← luhnModNCheck tables (py "NG" ++ cat ++ yearText ++ sequenceText)
    .ok (py "NG-" ++ cat ++ py "-" ++ yearText ++ py "-" ++ sequenceText ++ py "-" ++ [check])

/-- `SerialParts`. -/
structure SerialParts where
  categoryCode : PyStr
  year : Nat
  sequence : Nat
  check : Code
  serial : PyStr
deriving DecidableEq

/-- `\d`. -/
def isDecimal (tables : Unicode) (code : Code) : Bool := (tables.decimal code).isSome

/-- `int` of a text of decimal digits. -/
def decimalNat (tables : Unicode) (text : PyStr) : Nat :=
  text.foldl (fun total code => 10 * total + (tables.decimal code).getD 0) 0

/-- `[0-9A-Z]`. -/
def isCheck : Code → Bool
  | .scalar char =>
    decide (48 ≤ char.toNat ∧ char.toNat ≤ 57) || decide (65 ≤ char.toNat ∧ char.toNat ≤ 90)
  | .lone _ => false

/-- The groups of `_SERIAL_RE`. Its `$` also matches before a final newline. -/
def serialGroups (tables : Unicode) (text : PyStr) : Option (PyStr × PyStr × PyStr × Code) :=
  let cat := (text.drop 3).take 3
  let year := (text.drop 7).take 4
  let sequence := (text.drop 12).take 10
  match text.drop 23 with
  | check :: rest =>
    if text.take 3 = py "NG-" ∧ cat.all isCapital = true ∧ (text.drop 6).take 1 = py "-" ∧
        year.all (isDecimal tables) = true ∧ (text.drop 11).take 1 = py "-" ∧
        sequence.all (isDecimal tables) = true ∧ (text.drop 22).take 1 = py "-" ∧
        isCheck check = true ∧ (rest = [] ∨ rest = [.scalar '\n']) then
      some (cat, year, sequence, check)
    else none
  | [] => none

/-- `serial.strip().upper()`. -/
def normalize (tables : Unicode) (serial : PyStr) : PyStr :=
  PyStr.upper tables (PyStr.strip tables serial)

/-- `parse_serial` after normalization. -/
def parseNormalized (tables : Unicode) (serial : PyStr) : Result SerialParts :=
  match serialGroups tables serial with
  | none => .error (.serialError (py "serial does not match NG-<CAT3>-<YYYY>-<SEQ10>-<CHECK>"))
  | some (cat, year, sequence, check) =>
    if luhnModNValidate tables (py "NG" ++ cat ++ year ++ sequence) check then
      .ok ⟨cat, decimalNat tables year, decimalNat tables sequence, check, serial⟩
    else .error (.serialError (py "serial check digit mismatch"))

/-- `parse_serial`. -/
def parseSerial (tables : Unicode) (serial : PyStr) : Result SerialParts :=
  parseNormalized tables (normalize tables serial)

example : buildSerial .ascii (py "TBC") 2026 42 = .ok (py "NG-TBC-2026-0000000042-V") := by
  decide

section RoundTrip

variable {tables : Unicode}

/-- A number below a power of ten has no more digits than its exponent. -/
theorem decimal_length {number width : Nat} (positive : 0 < width) (bounded : number < 10 ^ width) :
    (PyStr.decimal number).length ≤ width := by
  rw [PyStr.decimal]
  split
  · exact positive
  · rw [List.length_map, List.length_reverse]
    exact (Nat.digits_length_le_iff (by omega) number).mpr bounded

/-- A padded number that fits has the width. -/
theorem zeroPad_length {number width : Nat} (positive : 0 < width) (bounded : number < 10 ^ width) :
    (PyStr.zeroPad width number).length = width := by
  have fits := decimal_length positive bounded
  rw [PyStr.zeroPad, List.length_append, List.length_replicate]
  omega

/-- A padded number is digits. -/
theorem zeroPad_digits (width number : Nat) :
    ∀ code ∈ PyStr.zeroPad width number, ∃ value < 10, code = Code.digit value := by
  intro code member
  rcases List.mem_append.mp member with zero | digit
  · exact ⟨0, by omega, (List.mem_replicate.mp zero).2⟩
  · rw [PyStr.decimal] at digit
    split at digit
    · exact ⟨0, by omega, by simpa using digit⟩
    · obtain ⟨value, listed, rfl⟩ := List.mem_map.mp digit
      exact ⟨value, Nat.digits_lt_base (by omega) (List.mem_reverse.mp listed), rfl⟩

/-- The characters of a serial: capitals, digits and the separator. -/
def serialCode (code : Code) : Bool :=
  match code with
  | .scalar char => isCheck code || decide (char = '-')
  | .lone _ => false

/-- A symbol is a check character with an index. -/
theorem symbol_code : ∀ index < 34, isCheck (symbol index) = true ∧
    (index? (symbol index)).isSome = true := by decide

/-- A digit is a check character, and ASCII. -/
theorem digit_check : ∀ value < 10, isCheck (Code.digit value) = true ∧
    ∃ char : Char, Code.digit value = .scalar char ∧ char.toNat < 128 ∧
      (Code.digitValue? (.scalar char)).isSome = true := by
  intro value small
  refine ⟨?_, Char.ofNat (48 + value), rfl, ?_⟩ <;> interval_cases value <;> decide

/-- A capital is a check character. -/
theorem capital_check {code : Code} (capital : isCapital code = true) : isCheck code = true := by
  cases code with
  | scalar char =>
    rw [isCapital, decide_eq_true_iff] at capital
    simp [isCheck, capital]
  | lone offset => cases capital

/-- The ten digits are decimal in every table. -/
theorem digit_decimal (value : Nat) (small : value < 10) : isDecimal tables (Code.digit value) = true := by
  obtain ⟨_, char, same, ascii, valued⟩ := digit_check value small
  rw [same, isDecimal, tables.decimal_ascii char ascii]
  exact valued

/-- A serial's character is its own upper case and no white space. -/
theorem serialCode_ascii : ∀ value < 128, serialCode (.scalar (Char.ofNat value)) = true →
    (Char.ofNat value).toUpper = Char.ofNat value ∧ value ≠ 32 ∧ ¬ (9 ≤ value ∧ value ≤ 13) ∧
      ¬ (28 ≤ value ∧ value ≤ 31) := by decide

/-- A character of a serial is its own upper case and no white space. -/
theorem serialCode_fixed {code : Code} (stated : serialCode code = true) :
    tables.upper code = [code] ∧ tables.isSpace code = false := by
  cases code with
  | lone offset => cases stated
  | scalar char =>
    have ascii : char.toNat < 128 := by
      simp only [serialCode, isCheck, Bool.or_eq_true, decide_eq_true_iff] at stated
      rcases stated with (digit | capital) | rfl
      · omega
      · omega
      · decide
    have facts := serialCode_ascii char.toNat ascii (by rw [Char.ofNat_toNat]; exact stated)
    rw [Char.ofNat_toNat] at facts
    rw [tables.upper_ascii char ascii, facts.1, tables.isSpace_ascii char ascii]
    refine ⟨rfl, ?_⟩
    simp only [Bool.or_eq_false_iff, decide_eq_false_iff_not]
    exact ⟨⟨facts.2.1, facts.2.2.1⟩, facts.2.2.2⟩

/-- A text of serial characters has no white space to strip. -/
theorem strip_fixed {serial : PyStr} (codes : ∀ code ∈ serial, serialCode code = true) :
    PyStr.strip tables serial = serial :=
  PyStr.trim_fixed (fun code member => (serialCode_fixed (codes code member)).2)

/-- Normalization leaves a text of serial characters as it is. -/
theorem normalize_fixed {serial : PyStr} (codes : ∀ code ∈ serial, serialCode code = true) :
    normalize tables serial = serial := by
  rw [normalize, strip_fixed codes, PyStr.upper]
  induction serial with
  | nil => rfl
  | cons code rest inductionHypothesis =>
    rw [List.flatMap_cons, (serialCode_fixed (codes code List.mem_cons_self)).1,
      inductionHypothesis (fun other member => codes other (List.mem_cons_of_mem _ member))]
    rfl

/-- The mark in front of a serial has three characters. -/
theorem prefixLength : (py "NG-").length = 3 := rfl

/-- The separator is one character. -/
theorem dashLength : (py "-").length = 1 := rfl

/-- The groups of a text that was put together from them. -/
theorem serialGroups_text {cat year sequence : PyStr} {check : Code} (catLength : cat.length = 3)
    (catCapital : cat.all isCapital = true) (yearLength : year.length = 4)
    (yearDecimal : year.all (isDecimal tables) = true) (sequenceLength : sequence.length = 10)
    (sequenceDecimal : sequence.all (isDecimal tables) = true) (checked : isCheck check = true) :
    serialGroups tables (py "NG-" ++ cat ++ py "-" ++ year ++ py "-" ++ sequence ++ py "-" ++ [check]) =
      some (cat, year, sequence, check) := by
  have positions : ∀ (front back : PyStr) (count : Nat), front.length = count →
      (front ++ back).drop count = back := by
    rintro front back count rfl
    exact List.drop_left
  have take : ∀ (front back : PyStr) (count : Nat), front.length = count →
      (front ++ back).take count = front := by
    rintro front back count rfl
    exact List.take_left
  have text : py "NG-" ++ cat ++ py "-" ++ year ++ py "-" ++ sequence ++ py "-" ++ [check] =
      py "NG-" ++ (cat ++ (py "-" ++ (year ++ (py "-" ++ (sequence ++ (py "-" ++ [check])))))) := by
    simp only [List.append_assoc]
  have drop3 : ∀ rest, (py "NG-" ++ rest).drop 3 = rest := fun rest => positions _ _ 3 rfl
  have drop6 : ∀ rest, (py "NG-" ++ (cat ++ rest)).drop 6 = rest := fun rest => by
    rw [← List.append_assoc]
    exact positions _ _ 6 (by simp [catLength, prefixLength])
  have drop7 : ∀ rest, (py "NG-" ++ (cat ++ (py "-" ++ rest))).drop 7 = rest := fun rest => by
    rw [← List.append_assoc, ← List.append_assoc]
    exact positions _ _ 7 (by simp [catLength, prefixLength, dashLength])
  have drop11 : ∀ rest, (py "NG-" ++ (cat ++ (py "-" ++ (year ++ rest)))).drop 11 = rest :=
    fun rest => by
      rw [← List.append_assoc, ← List.append_assoc, ← List.append_assoc]
      exact positions _ _ 11 (by simp [catLength, yearLength, prefixLength, dashLength])
  have drop12 : ∀ rest,
      (py "NG-" ++ (cat ++ (py "-" ++ (year ++ (py "-" ++ rest))))).drop 12 = rest := fun rest => by
    rw [← List.append_assoc, ← List.append_assoc, ← List.append_assoc, ← List.append_assoc]
    exact positions _ _ 12 (by simp [catLength, yearLength, prefixLength, dashLength])
  have drop22 : ∀ rest, (py "NG-" ++ (cat ++ (py "-" ++ (year ++ (py "-" ++
      (sequence ++ rest)))))).drop 22 = rest := fun rest => by
    rw [← List.append_assoc, ← List.append_assoc, ← List.append_assoc, ← List.append_assoc,
      ← List.append_assoc]
    exact positions _ _ 22 (by simp [catLength, yearLength, sequenceLength, prefixLength, dashLength])
  have drop23 : ∀ rest, (py "NG-" ++ (cat ++ (py "-" ++ (year ++ (py "-" ++
      (sequence ++ (py "-" ++ rest))))))).drop 23 = rest := fun rest => by
    rw [← List.append_assoc, ← List.append_assoc, ← List.append_assoc, ← List.append_assoc,
      ← List.append_assoc, ← List.append_assoc]
    exact positions _ _ 23 (by simp [catLength, yearLength, sequenceLength, prefixLength, dashLength])
  rw [text, serialGroups]
  simp only [drop3, drop6, drop7, drop11, drop12, drop22, drop23, take cat _ 3 catLength,
    take year _ 4 yearLength, take sequence _ 10 sequenceLength, take (py "NG-") _ 3 rfl,
    take (py "-") _ 1 rfl, catCapital, yearDecimal, sequenceDecimal, checked, true_or, and_self,
    if_true]

/-- What a built serial consists of. -/
theorem buildSerial_ok {categoryCode : PyStr} {year sequence : Int} {serial : PyStr}
    (built : buildSerial tables categoryCode year sequence = .ok serial) :
    ∃ cat check, cat = PyStr.upper tables categoryCode ∧ cat.length = 3 ∧ cat.all isCapital = true ∧
      (1900 ≤ year ∧ year ≤ 9999) ∧ (0 ≤ sequence ∧ sequence ≤ 9999999999) ∧
      luhnModNCheck tables (py "NG" ++ cat ++ PyStr.zeroPad 4 year.toNat ++
        PyStr.zeroPad 10 sequence.toNat) = .ok check ∧
      serial = py "NG-" ++ cat ++ py "-" ++ PyStr.zeroPad 4 year.toNat ++ py "-" ++
        PyStr.zeroPad 10 sequence.toNat ++ py "-" ++ [check] := by
  rw [buildSerial] at built
  split at built
  · cases built
  case isFalse category =>
    split at built
    · cases built
    case isFalse yearRange =>
      split at built
      · cases built
      case isFalse sequenceRange =>
        rw [Result.bind_ok] at built
        obtain ⟨check, checked, written⟩ := built
        rw [not_not] at category yearRange sequenceRange
        exact ⟨_, check, rfl, category.1, category.2, yearRange, sequenceRange, checked,
          (Except.ok.inj written).symm⟩

/-- A computed check character is a symbol. -/
theorem luhn_symbol {body : PyStr} {check : Code} (checked : luhnModNCheck tables body = .ok check) :
    ∃ index < 34, check = symbol index := by
  rw [luhnModNCheck] at checked
  split at checked
  · cases checked
  · exact ⟨_, Nat.mod_lt _ (by omega), (Except.ok.inj checked).symm⟩

/-- A built serial is made of serial characters. -/
theorem buildSerial_codes {categoryCode : PyStr} {year sequence : Int} {serial : PyStr}
    (built : buildSerial tables categoryCode year sequence = .ok serial) :
    (∀ code ∈ serial, serialCode code = true) ∧ serial.length = 24 := by
  obtain ⟨cat, check, _, catLength, catCapital, yearRange, sequenceRange, checked, rfl⟩ :=
    buildSerial_ok built
  have checkCode : ∀ code, isCheck code = true → serialCode code = true := by
    intro code stated
    cases code with
    | scalar char => simp [serialCode, stated]
    | lone offset => cases stated
  have digits : ∀ width number, ∀ code ∈ PyStr.zeroPad width number, serialCode code = true := by
    intro width number code member
    obtain ⟨value, small, rfl⟩ := zeroPad_digits width number code member
    exact checkCode _ (digit_check value small).1
  constructor
  · intro code member
    simp only [List.mem_append, List.mem_singleton] at member
    rcases member with ((((((prefixed | category) | first) | yearDigit) | second) | sequenceDigit) |
      third) | rfl
    · exact (by decide : ∀ code ∈ py "NG-", serialCode code = true) code prefixed
    · exact checkCode _ (capital_check (List.all_eq_true.mp catCapital code category))
    · exact (by decide : ∀ code ∈ py "-", serialCode code = true) code first
    · exact digits _ _ code yearDigit
    · exact (by decide : ∀ code ∈ py "-", serialCode code = true) code second
    · exact digits _ _ code sequenceDigit
    · exact (by decide : ∀ code ∈ py "-", serialCode code = true) code third
    · obtain ⟨index, small, rfl⟩ := luhn_symbol checked
      exact checkCode _ (symbol_code index small).1
  · have yearLength : (PyStr.zeroPad 4 year.toNat).length = 4 := zeroPad_length (by omega) (by omega)
    have sequenceLength : (PyStr.zeroPad 10 sequence.toNat).length = 10 :=
      zeroPad_length (by omega) (by omega)
    simp [catLength, yearLength, sequenceLength, prefixLength, dashLength]

/-- A text put together from its groups and their check character is parsed into
them. -/
theorem parse_text {cat year sequence : PyStr} {check : Code} (catLength : cat.length = 3)
    (catCapital : cat.all isCapital = true) (yearLength : year.length = 4)
    (yearDecimal : year.all (isDecimal tables) = true) (sequenceLength : sequence.length = 10)
    (sequenceDecimal : sequence.all (isDecimal tables) = true)
    (checked : luhnModNCheck tables (py "NG" ++ cat ++ year ++ sequence) = .ok check) :
    parseNormalized tables
        (py "NG-" ++ cat ++ py "-" ++ year ++ py "-" ++ sequence ++ py "-" ++ [check]) =
      .ok ⟨cat, decimalNat tables year, decimalNat tables sequence, check,
        py "NG-" ++ cat ++ py "-" ++ year ++ py "-" ++ sequence ++ py "-" ++ [check]⟩ := by
  obtain ⟨index, small, rfl⟩ := luhn_symbol checked
  have groups := @serialGroups_text tables cat _ _ _ catLength catCapital yearLength yearDecimal
    sequenceLength sequenceDecimal (symbol_code index small).1
  have valid : luhnModNValidate tables (py "NG" ++ cat ++ year ++ sequence) (symbol index) = true := by
    rw [luhnModNValidate, checked]
    simp [(symbol_code index small).2]
  rw [parseNormalized, groups]
  simp only [valid, if_true]

/-- A built serial is parsed back to itself. -/
theorem parse_build {categoryCode : PyStr} {year sequence : Int} {serial : PyStr}
    (built : buildSerial tables categoryCode year sequence = .ok serial) :
    ∃ parts, parseNormalized tables serial = .ok parts ∧ parts.serial = serial := by
  obtain ⟨cat, check, _, catLength, catCapital, yearRange, sequenceRange, checked, rfl⟩ :=
    buildSerial_ok built
  have decimals : ∀ width number, (PyStr.zeroPad width number).all (isDecimal tables) = true := by
    intro width number
    rw [List.all_eq_true]
    intro code member
    obtain ⟨value, small, rfl⟩ := zeroPad_digits width number code member
    exact digit_decimal value small
  exact ⟨_, parse_text catLength catCapital (zeroPad_length (by omega) (by omega)) (decimals _ _)
    (zeroPad_length (by omega) (by omega)) (decimals _ _) checked, rfl⟩

/-- A text cut at the positions of the groups. -/
theorem groups_split (text : PyStr) : text = text.take 3 ++ ((text.drop 3).take 3 ++
    ((text.drop 6).take 1 ++ ((text.drop 7).take 4 ++ ((text.drop 11).take 1 ++
      ((text.drop 12).take 10 ++ ((text.drop 22).take 1 ++ text.drop 23)))))) := by
  have cut : ∀ position width, text.drop position =
      (text.drop position).take width ++ text.drop (position + width) := by
    intro position width
    rw [← List.drop_drop, List.take_append_drop]
  conv_lhs => rw [← List.drop_zero (l := text), cut 0 3, cut (0 + 3) 3, cut (0 + 3 + 3) 1,
    cut (0 + 3 + 3 + 1) 4, cut (0 + 3 + 3 + 1 + 4) 1, cut (0 + 3 + 3 + 1 + 4 + 1) 10,
    cut (0 + 3 + 3 + 1 + 4 + 1 + 10) 1]
  rfl

/-- A symbol of the alphabet is one that every column accepts. -/
theorem index_storable {code : Code} (known : (index? code).isSome = true) : code.storable = true := by
  obtain ⟨index, found⟩ := Option.isSome_iff_exists.mp known
  rw [index?, List.findIdx?_eq_some_iff_getElem] at found
  obtain ⟨inside, same, _⟩ := found
  rw [decide_eq_true_eq] at same
  have each : ∀ code ∈ alphabet, code.storable = true := by decide
  exact same ▸ each _ (List.getElem_mem inside)

/-- A parsed serial fits the columns that serials are stored in. -/
theorem parseSerial_fits {text : PyStr} {parts : SerialParts}
    (parsed : parseSerial tables text = .ok parts) : PyStr.fits 64 parts.serial = true := by
  unfold parseSerial parseNormalized at parsed
  generalize normalize tables text = serial at parsed
  split at parsed
  case _ => cases parsed
  case _ cat year sequence check grouped =>
    split at parsed
    case isFalse => cases parsed
    case isTrue valid =>
      cases parsed
      unfold serialGroups at grouped
      dsimp only at grouped
      split at grouped
      case _ _ rest final =>
        split at grouped
        case isFalse => cases grouped
        case isTrue shape =>
          cases grouped
          obtain ⟨opening, _, first, _, second, _, third, checked, ending⟩ := shape
          have symbols : ∀ code ∈ py "NG" ++ (serial.drop 3).take 3 ++ (serial.drop 7).take 4 ++
              (serial.drop 12).take 10, code.storable = true := by
            intro code member
            unfold luhnModNValidate luhnModNCheck at valid
            split at valid
            case _ expected computed =>
              split at computed
              case _ => cases computed
              case _ unknown =>
                have known := List.find?_eq_none.mp unknown code member
                apply index_storable
                simpa [Option.isSome_iff_ne_none] using known
            case _ => cases valid
          have dash : (py "-").all Code.storable = true := by decide
          have lastStorable : check.storable = true := by
            cases check with
            | lone offset => cases checked
            | scalar char =>
              simp only [isCheck, Bool.or_eq_true, decide_eq_true_eq] at checked
              simp only [Code.storable, decide_eq_true_eq]
              omega
          simp only [List.mem_append, or_imp, forall_and] at symbols
          rw [PyStr.fits, Bool.and_eq_true, decide_eq_true_eq]
          constructor
          · have length := congrArg List.length final
            rw [List.length_drop, List.length_cons] at length
            have short : rest.length ≤ 1 := by rcases ending with rfl | rfl <;> simp
            show serial.length ≤ 64
            omega
          · rw [groups_split serial, opening, first, second, third, final]
            simp only [List.all_append, List.all_cons, dash, lastStorable, Bool.and_eq_true, true_and,
              List.all_eq_true]
            refine ⟨by decide, symbols.1.1.2, symbols.1.2, symbols.2, ?_⟩
            rcases ending with rfl | rfl
            · simp
            · simp [Code.storable]
      case _ => cases grouped

end RoundTrip

end TaxStamps.Serials
