import TaxStamps.Domain.SerialCheck

/-!
# Building and parsing serials

`build_serial` and `parse_serial` are inverse to each other on years of four
digits from 1900 on. Parsing undoes lower case and surrounding white space, and an
accepted text has ASCII digits only, since the check character is computed over
the alphabet.
-/

namespace TaxStamps.Serials

/-- The lower case of an ASCII character. -/
def lowerCode : Code → Code
  | .scalar char => .scalar char.toLower
  | .lone offset => .lone offset

/-- `str.lower` of an ASCII text. -/
def lower (text : PyStr) : PyStr := text.map lowerCode

/-- The upper case of a character that is no white space is not empty and has no
line feed. -/
def KeepsLines (tables : Unicode) : Prop :=
  ∀ code, tables.isSpace code = false →
    tables.upper code ≠ [] ∧ Code.scalar '\n' ∉ tables.upper code

/-- The letters of category codes: `I` and `O` never appear. -/
def letters : PyStr := py "ABCDEFGHJKLMNPQRSTUVWXYZ"

section Numbers

variable {tables : Unicode} {text : PyStr} {values : List Nat}

/-- Decimal digits are read as the number that they are. -/
theorem decimalNat_digits (small : ∀ value ∈ values, value < 10) :
    decimalNat tables (values.map Code.digit) = Nat.ofDigits 10 values.reverse := by
  induction values using List.reverseRecOn with
  | nil => rfl
  | append_singleton front last inductionHypothesis =>
    have known : tables.decimal (Code.digit last) = some last := by
      have bounded := small last (by simp)
      obtain ⟨_, char, same, ascii, _⟩ := digit_check last bounded
      rw [same, tables.decimal_ascii char ascii, ← same]
      exact Code.digit_value last bounded
    have first := inductionHypothesis (fun value member => small value (by simp [member]))
    rw [decimalNat] at first
    rw [decimalNat, List.map_append, List.map_singleton, List.foldl_append, first, List.reverse_concat,
      Nat.ofDigits_cons, List.foldl_cons, List.foldl_nil, known, Option.getD_some, Nat.add_comm]

/-- A text of digits is that of their values. -/
theorem digits_values (digits : ∀ code ∈ text, ∃ value < 10, code = Code.digit value) :
    ∃ values : List Nat, (∀ value ∈ values, value < 10) ∧ text = values.map Code.digit := by
  induction text with
  | nil => exact ⟨[], by simp, rfl⟩
  | cons code rest inductionHypothesis =>
    obtain ⟨value, small, rfl⟩ := digits code List.mem_cons_self
    obtain ⟨values, bounded, rfl⟩ := inductionHypothesis
      (fun other member => digits other (List.mem_cons_of_mem _ member))
    refine ⟨value :: values, ?_, rfl⟩
    intro other member
    rcases List.mem_cons.mp member with rfl | later
    · exact small
    · exact bounded other later

/-- The padded text of a number denotes it. -/
theorem decimalNat_zeroPad (width number : Nat) :
    decimalNat tables (PyStr.zeroPad width number) = number := by
  have zeros : ∀ count, List.replicate count (Code.digit 0) = (List.replicate count 0).map Code.digit := by
    intro count
    rw [List.map_replicate]
  rw [PyStr.zeroPad, zeros]
  by_cases zero : number = 0
  · subst zero
    have spelled : PyStr.decimal 0 = [0].map Code.digit := rfl
    rw [spelled, ← List.map_append, decimalNat_digits]
    · simp [Nat.ofDigits_cons, Nat.ofDigits_replicate_zero]
    · intro value member
      rcases List.mem_append.mp member with leading | last
      · rw [(List.mem_replicate.mp leading).2]
        omega
      · rw [List.mem_singleton.mp last]
        omega
  · rw [PyStr.decimal, if_neg zero, ← List.map_append, decimalNat_digits]
    · rw [List.reverse_append, List.reverse_reverse, List.reverse_replicate, Nat.ofDigits_append,
        Nat.ofDigits_digits, Nat.ofDigits_replicate_zero, Nat.mul_zero, Nat.add_zero]
    · intro value member
      rcases List.mem_append.mp member with leading | digit
      · rw [(List.mem_replicate.mp leading).2]
        omega
      · exact Nat.digits_lt_base (by omega) (List.mem_reverse.mp digit)

/-- A text of digits is the padded text of the number it denotes. -/
theorem zeroPad_decimalNat {width : Nat} (positive : 0 < width)
    (digits : ∀ code ∈ text, ∃ value < 10, code = Code.digit value) (length : text.length = width) :
    PyStr.zeroPad width (decimalNat tables text) = text := by
  obtain ⟨values, small, rfl⟩ := digits_values digits
  rw [List.length_map] at length
  have reversed : ∀ value ∈ values.reverse, value < 10 :=
    fun value member => small value (List.mem_reverse.mp member)
  have bounded : decimalNat tables (values.map Code.digit) < 10 ^ width := by
    rw [decimalNat_digits small]
    have below := Nat.ofDigits_lt_base_pow_length (by omega : 1 < 10) reversed
    rwa [List.length_reverse, length] at below
  have padded := zeroPad_length positive bounded
  have same := @decimalNat_zeroPad tables width (decimalNat tables (values.map Code.digit))
  obtain ⟨others, otherSmall, spelled⟩ := digits_values
    (zeroPad_digits width (decimalNat tables (values.map Code.digit)))
  rw [spelled] at padded same ⊢
  rw [List.length_map] at padded
  rw [decimalNat_digits small, decimalNat_digits otherSmall] at same
  have equal := Nat.ofDigits_inj_of_len_eq (by omega : 1 < 10)
    (by rw [List.length_reverse, List.length_reverse, padded, length])
    (fun value member => otherSmall value (List.mem_reverse.mp member)) reversed same
  rw [List.reverse_injective equal]

end Numbers

section Parsed

variable {tables : Unicode} {text : PyStr}

/-- The groups of a text, and what may follow them. -/
theorem serialGroups_some {cat year sequence : PyStr} {check : Code}
    (grouped : serialGroups tables text = some (cat, year, sequence, check)) :
    ∃ rest, text = py "NG-" ++ cat ++ py "-" ++ year ++ py "-" ++ sequence ++ py "-" ++ check :: rest ∧
      cat.length = 3 ∧ cat.all isCapital = true ∧
      year.length = 4 ∧ year.all (isDecimal tables) = true ∧
      sequence.length = 10 ∧ sequence.all (isDecimal tables) = true ∧
      isCheck check = true ∧ (rest = [] ∨ rest = [.scalar '\n']) := by
  unfold serialGroups at grouped
  dsimp only at grouped
  split at grouped
  case _ _ rest final =>
    split at grouped
    case isFalse => cases grouped
    case isTrue shape =>
      cases grouped
      obtain ⟨opening, capitals, first, years, second, sequences, third, checked, ending⟩ := shape
      have length := congrArg List.length final
      rw [List.length_drop, List.length_cons] at length
      refine ⟨rest, ?_, ?_, capitals, ?_, years, ?_, sequences, checked, ending⟩
      · conv_lhs => rw [groups_split text, opening, first, second, third, final]
        simp only [List.append_assoc]
      · rw [List.length_take, List.length_drop]
        omega
      · rw [List.length_take, List.length_drop]
        omega
      · rw [List.length_take, List.length_drop]
        omega
  case _ => cases grouped

/-- A decimal digit of the alphabet is an ASCII digit. -/
theorem decimal_symbol : ∀ value : Fin 34, ∃ char : Char, symbolOf value = .scalar char ∧
    char.toNat < 128 ∧ ((Code.digitValue? (.scalar char)).isSome = true →
      ∃ digit < 10, symbolOf value = Code.digit digit) := by
  intro value
  refine ⟨match symbolOf value with | .scalar char => char | .lone _ => '0', ?_⟩
  revert value
  decide

/-- A decimal digit of the alphabet is one of the ten ASCII digits. -/
theorem alphabet_decimal {code : Code} (known : (index? code).isSome = true)
    (decimal : isDecimal tables code = true) : ∃ digit < 10, code = Code.digit digit := by
  obtain ⟨value, rfl⟩ := index_symbol known
  obtain ⟨char, same, ascii, digit⟩ := decimal_symbol value
  apply digit
  rw [same, isDecimal, tables.decimal_ascii char ascii] at decimal
  exact decimal

/-- Every character of a valid body is in the alphabet. -/
theorem validate_known {body : PyStr} {check : Code} (valid : luhnModNValidate tables body check = true) :
    ∀ code ∈ body ++ [check], (index? code).isSome = true := by
  obtain ⟨values, spelled, _⟩ := validate_iff.mp valid
  intro code member
  rw [spelled] at member
  obtain ⟨value, _, rfl⟩ := List.mem_map.mp member
  rw [symbolOf_index]
  rfl

/-- A valid check character is the computed one. -/
theorem validate_check {body : PyStr} {check : Code} (valid : luhnModNValidate tables body check = true) :
    luhnModNCheck tables body = .ok check := by
  unfold luhnModNValidate at valid
  split at valid
  case _ expected computed =>
    rw [Bool.and_eq_true, decide_eq_true_eq] at valid
    rw [computed, valid.2]
  case _ => cases valid

/-- What an accepted text consists of: the groups in ASCII digits, their check
character, and perhaps a line feed. -/
theorem parseNormalized_ok {parts : SerialParts} (parsed : parseNormalized tables text = .ok parts) :
    ∃ year sequence rest,
      text = py "NG-" ++ parts.categoryCode ++ py "-" ++ year ++ py "-" ++ sequence ++ py "-" ++
        parts.check :: rest ∧
      parts.categoryCode.length = 3 ∧ parts.categoryCode.all isCapital = true ∧
      year.length = 4 ∧ (∀ code ∈ year, ∃ value < 10, code = Code.digit value) ∧
      sequence.length = 10 ∧ (∀ code ∈ sequence, ∃ value < 10, code = Code.digit value) ∧
      luhnModNValidate tables (py "NG" ++ parts.categoryCode ++ year ++ sequence) parts.check = true ∧
      isCheck parts.check = true ∧ (rest = [] ∨ rest = [.scalar '\n']) ∧
      parts.year = decimalNat tables year ∧ parts.sequence = decimalNat tables sequence ∧
      parts.serial = text := by
  unfold parseNormalized at parsed
  split at parsed
  case _ => cases parsed
  case _ cat year sequence check grouped =>
    split at parsed
    case isFalse => cases parsed
    case isTrue valid =>
      cases parsed
      obtain ⟨rest, spelled, catLength, capitals, yearLength, years, sequenceLength, sequences, checked,
        ending⟩ := serialGroups_some grouped
      have known := validate_known valid
      refine ⟨year, sequence, rest, spelled, catLength, capitals, yearLength, ?_, sequenceLength, ?_,
        valid, checked, ending, rfl, rfl, rfl⟩
      · intro code member
        exact alphabet_decimal (known code (by simp [member])) (List.all_eq_true.mp years code member)
      · intro code member
        exact alphabet_decimal (known code (by simp [member])) (List.all_eq_true.mp sequences code member)

/-- A check character can stand in a serial. -/
theorem check_serialCode {code : Code} (stated : isCheck code = true) : serialCode code = true := by
  cases code with
  | scalar char => simp [serialCode, stated]
  | lone offset => cases stated

/-- An accepted text is 24 characters of a serial, and perhaps a line feed. -/
theorem parseNormalized_codes {parts : SerialParts} (parsed : parseNormalized tables text = .ok parts) :
    ∃ start rest, text = start ++ rest ∧ (∀ code ∈ start, serialCode code = true) ∧
      start.length = 24 ∧ (rest = [] ∨ rest = [.scalar '\n']) := by
  obtain ⟨year, sequence, rest, spelled, catLength, capitals, yearLength, years, sequenceLength,
    sequences, _, checked, ending, _⟩ := parseNormalized_ok parsed
  have digitCodes : ∀ code : Code, (∃ value < 10, code = Code.digit value) → serialCode code = true := by
    rintro code ⟨value, small, rfl⟩
    exact check_serialCode (digit_check value small).1
  refine ⟨py "NG-" ++ parts.categoryCode ++ py "-" ++ year ++ py "-" ++ sequence ++ py "-" ++
    [parts.check], rest, by simp [spelled], ?_, ?_, ending⟩
  · intro code member
    simp only [List.mem_append, List.mem_singleton] at member
    rcases member with ((((((opening | category) | first) | yearDigit) | second) | sequenceDigit) |
      third) | rfl
    · exact (by decide : ∀ code ∈ py "NG-", serialCode code = true) code opening
    · exact check_serialCode (capital_check (List.all_eq_true.mp capitals code category))
    · exact (by decide : ∀ code ∈ py "-", serialCode code = true) code first
    · exact digitCodes code (years code yearDigit)
    · exact (by decide : ∀ code ∈ py "-", serialCode code = true) code second
    · exact digitCodes code (sequences code sequenceDigit)
    · exact (by decide : ∀ code ∈ py "-", serialCode code = true) code third
    · exact check_serialCode checked
  · simp [catLength, yearLength, sequenceLength, prefixLength, dashLength]

end Parsed

section Normalized

variable {tables : Unicode} {text front back : PyStr}

/-- A serial's characters are capital already. -/
theorem upper_fixed (codes : ∀ code ∈ text, serialCode code = true) : PyStr.upper tables text = text := by
  have fixed := @normalize_fixed tables text codes
  rwa [normalize, strip_fixed codes] at fixed

/-- Capitals are their own upper case. -/
theorem upper_capitals (capitals : text.all isCapital = true) : PyStr.upper tables text = text :=
  upper_fixed (fun code member =>
    check_serialCode (capital_check (List.all_eq_true.mp capitals code member)))

/-- The lower case of a serial's character is ASCII, has the character as its upper case, and is
no white space. -/
theorem lower_ascii : ∀ value < 128, serialCode (.scalar (Char.ofNat value)) = true →
    (Char.ofNat value).toLower.toNat < 128 ∧ (Char.ofNat value).toLower.toUpper = Char.ofNat value ∧
      (decide ((Char.ofNat value).toLower.toNat = 32) ||
        decide (9 ≤ (Char.ofNat value).toLower.toNat ∧ (Char.ofNat value).toLower.toNat ≤ 13) ||
        decide (28 ≤ (Char.ofNat value).toLower.toNat ∧ (Char.ofNat value).toLower.toNat ≤ 31)) = false := by
  decide

/-- A serial's characters are ASCII. -/
theorem serialCode_ascii_bound {char : Char} (stated : serialCode (.scalar char) = true) :
    char.toNat < 128 := by
  simp only [serialCode, isCheck, Bool.or_eq_true, decide_eq_true_iff] at stated
  rcases stated with (digit | capital) | rfl
  · omega
  · omega
  · decide

/-- Upper case undoes lower case on the characters of a serial. -/
theorem lowerCode_upper {code : Code} (stated : serialCode code = true) :
    tables.upper (lowerCode code) = [code] ∧ tables.isSpace (lowerCode code) = false := by
  cases code with
  | lone offset => cases stated
  | scalar char =>
    have facts := lower_ascii char.toNat (serialCode_ascii_bound stated)
      (by rw [Char.ofNat_toNat]; exact stated)
    rw [Char.ofNat_toNat] at facts
    rw [lowerCode, tables.upper_ascii _ facts.1, facts.2.1, tables.isSpace_ascii _ facts.1, facts.2.2]
    exact ⟨rfl, rfl⟩

/-- White space around a text without any is stripped. -/
theorem strip_padded (spaces : ∀ code ∈ front, tables.isSpace code = true)
    (trailing : ∀ code ∈ back, tables.isSpace code = true)
    (solid : ∀ code ∈ text, tables.isSpace code = false) :
    PyStr.strip tables (front ++ text ++ back) = text := by
  have kept : ∀ rest : PyStr, (∀ code ∈ rest, tables.isSpace code = false) → ∀ tail : PyStr, rest ≠ [] →
      (rest ++ tail).dropWhile tables.isSpace = rest ++ tail := by
    intro rest each tail present
    cases rest with
    | nil => exact absurd rfl present
    | cons code others =>
      rw [List.cons_append, List.dropWhile_cons_of_neg]
      rw [each code List.mem_cons_self]
      decide
  rw [PyStr.strip, PyStr.trim, List.append_assoc, List.dropWhile_append_of_pos spaces]
  by_cases empty : text = []
  · rw [empty, List.nil_append, List.dropWhile_eq_nil_iff.mpr trailing]
    rfl
  · rw [kept text solid back empty, List.reverse_append,
      List.dropWhile_append_of_pos (fun code member => trailing code (List.mem_reverse.mp member))]
    have whole := kept text.reverse (fun code member => solid code (List.mem_reverse.mp member)) []
      (by simpa using empty)
    rw [List.append_nil] at whole
    rw [whole, List.reverse_reverse]

/-- A serial in either case, with white space around it, is normalized to itself. -/
theorem normalize_spelled (codes : ∀ code ∈ text, serialCode code = true) {spelled : PyStr}
    (either : spelled = text ∨ spelled = lower text)
    (spaces : ∀ code ∈ front, tables.isSpace code = true)
    (trailing : ∀ code ∈ back, tables.isSpace code = true) :
    normalize tables (front ++ spelled ++ back) = text := by
  rcases either with rfl | rfl
  · rw [normalize, strip_padded spaces trailing (fun code member => (serialCode_fixed (codes code member)).2)]
    exact upper_fixed codes
  · rw [normalize, strip_padded spaces trailing]
    · rw [PyStr.upper, lower, List.flatMap_map]
      clear spaces trailing
      induction text with
      | nil => rfl
      | cons code rest inductionHypothesis =>
        rw [List.flatMap_cons, (lowerCode_upper (codes code List.mem_cons_self)).1,
          inductionHypothesis (fun other member => codes other (List.mem_cons_of_mem _ member))]
        rfl
    · intro code member
      obtain ⟨original, listed, rfl⟩ := List.mem_map.mp member
      exact (lowerCode_upper (codes original listed)).2

/-- A normalized text does not end in a line feed. -/
theorem normalize_unbroken (keeps : KeepsLines tables) {start : PyStr} :
    normalize tables text ≠ start ++ [.scalar '\n'] := by
  intro broken
  rw [normalize, PyStr.upper] at broken
  have solid : ∀ last, (PyStr.strip tables text).getLast? = some last → tables.isSpace last = false := by
    intro last found
    rw [PyStr.strip, PyStr.trim, List.getLast?_reverse] at found
    have dropped := List.head?_dropWhile_not tables.isSpace (text.dropWhile tables.isSpace).reverse
    rw [found] at dropped
    exact dropped
  cases ending : (PyStr.strip tables text).getLast? with
  | none =>
    rw [List.getLast?_eq_none_iff] at ending
    rw [ending] at broken
    simp at broken
  | some last =>
    obtain ⟨front, spelled⟩ := List.getLast?_eq_some_iff.mp ending
    obtain ⟨present, clean⟩ := keeps last (solid last ending)
    rw [spelled, List.flatMap_append, List.flatMap_singleton] at broken
    have final := congrArg List.getLast? broken
    rw [List.getLast?_append_of_ne_nil _ present, List.getLast?_concat] at final
    exact clean (List.mem_of_getLast? final)

end Normalized

section RoundTrips

variable {tables : Unicode}

/-- Every category letter is a capital of the alphabet. -/
theorem letter_capital : ∀ code ∈ letters, isCapital code = true ∧ (index? code).isSome = true := by
  decide

/-- Digits are in the alphabet. -/
theorem digit_known : ∀ value < 10, (index? (Code.digit value)).isSome = true := by decide

/-- A body over the alphabet has a check character. -/
theorem luhnModNCheck_known {body : PyStr} (known : ∀ code ∈ body, (index? code).isSome = true) :
    ∃ check, luhnModNCheck tables body = .ok check := by
  have unknown : body.find? (fun code => (index? code).isNone) = none := by
    rw [List.find?_eq_none]
    intro code member
    simpa [Option.isSome_iff_ne_none] using known code member
  rw [luhnModNCheck, unknown]
  exact ⟨_, rfl⟩

/-- Every category over the letters, year from 1900 and sequence of ten digits has
a serial. -/
theorem buildSerial_total {categoryCode : PyStr} {year sequence : Nat} (three : categoryCode.length = 3)
    (listed : ∀ code ∈ categoryCode, code ∈ letters) (first : 1900 ≤ year) (last : year ≤ 9999)
    (bounded : sequence ≤ 9999999999) :
    ∃ serial, buildSerial tables categoryCode year sequence = .ok serial := by
  have capitals : categoryCode.all isCapital = true :=
    List.all_eq_true.mpr (fun code member => (letter_capital code (listed code member)).1)
  have upper : PyStr.upper tables categoryCode = categoryCode := upper_capitals capitals
  have digits : ∀ width number, ∀ code ∈ PyStr.zeroPad width number, (index? code).isSome = true := by
    intro width number code member
    obtain ⟨value, small, rfl⟩ := zeroPad_digits width number code member
    exact digit_known value small
  have known : ∀ code ∈ py "NG" ++ categoryCode ++ PyStr.zeroPad 4 (year : Int).toNat ++
      PyStr.zeroPad 10 (sequence : Int).toNat, (index? code).isSome = true := by
    intro code member
    simp only [List.mem_append] at member
    rcases member with ((opening | category) | yearDigit) | sequenceDigit
    · exact (by decide : ∀ code ∈ py "NG", (index? code).isSome = true) code opening
    · exact (letter_capital code (listed code category)).2
    · exact digits _ _ code yearDigit
    · exact digits _ _ code sequenceDigit
  obtain ⟨check, checked⟩ := @luhnModNCheck_known tables _ known
  rw [buildSerial]
  simp only [upper, three, capitals, and_self, not_true_eq_false, if_false, checked]
  rw [if_neg (by omega), if_neg (by omega)]
  exact ⟨_, rfl⟩

/-- Building and parsing serials are inverse to each other: every category, year
and sequence is restored from its serial in either case with white space around
it, and every accepted text with a year from 1900 on is rebuilt from its parts. -/
theorem serial_codec (keeps : KeepsLines tables) :
    (∀ (categoryCode : PyStr) (year sequence : Nat), categoryCode.length = 3 →
      (∀ code ∈ categoryCode, code ∈ letters) → 1900 ≤ year → year ≤ 9999 → sequence ≤ 9999999999 →
      ∃ serial check, buildSerial tables categoryCode year sequence = .ok serial ∧
        serial.length = 24 ∧ serial.getLast? = some check ∧
        ∀ spelled front back, spelled = serial ∨ spelled = lower serial →
          (∀ code ∈ front, tables.isSpace code = true) → (∀ code ∈ back, tables.isSpace code = true) →
          parseSerial tables (front ++ spelled ++ back) =
            .ok ⟨categoryCode, year, sequence, check, serial⟩) ∧
    ∀ text parts, parseSerial tables text = .ok parts → 1900 ≤ parts.year → parts.year ≤ 9999 →
      buildSerial tables parts.categoryCode parts.year parts.sequence = .ok parts.serial ∧
        parseSerial tables parts.serial = .ok parts := by
  constructor
  · intro categoryCode year sequence three listed first last bounded
    obtain ⟨serial, built⟩ := @buildSerial_total tables categoryCode year sequence three listed first
      last bounded
    obtain ⟨codes, length⟩ := buildSerial_codes built
    obtain ⟨cat, check, upper, catLength, catCapital, _, _, checked, spelling⟩ := buildSerial_ok built
    rw [upper_capitals (List.all_eq_true.mpr
      (fun code member => (letter_capital code (listed code member)).1))] at upper
    subst upper
    have decimals : ∀ width number, (PyStr.zeroPad width number).all (isDecimal tables) = true := by
      intro width number
      rw [List.all_eq_true]
      intro code member
      obtain ⟨value, small, rfl⟩ := zeroPad_digits width number code member
      exact digit_decimal value small
    refine ⟨serial, check, built, length, by rw [spelling, List.getLast?_concat], ?_⟩
    intro spelled front back either spaces trailing
    rw [parseSerial, normalize_spelled codes either spaces trailing]
    have parsed := @parse_text tables cat _ _ check catLength catCapital
      (zeroPad_length (by omega) (by omega : (year : Int).toNat < 10 ^ 4)) (decimals _ _)
      (zeroPad_length (by omega) (by omega : (sequence : Int).toNat < 10 ^ 10)) (decimals _ _) checked
    rw [← spelling, decimalNat_zeroPad, decimalNat_zeroPad, Int.toNat_natCast, Int.toNat_natCast] at parsed
    exact parsed
  · intro text parts parsed first last
    rw [parseSerial] at parsed
    obtain ⟨start, tail, cut, codes, _, ends⟩ := parseNormalized_codes parsed
    have whole : tail = [] := by
      rcases ends with empty | newline
      · exact empty
      · rw [newline] at cut
        exact absurd cut (normalize_unbroken keeps)
    rw [whole, List.append_nil] at cut
    obtain ⟨year, sequence, rest, spelled, catLength, capitals, yearLength, years, sequenceLength,
      sequences, valid, checked, ending, sameYear, sameSequence, same⟩ := parseNormalized_ok parsed
    have single : rest = [] := by
      rcases ending with empty | newline
      · exact empty
      · rw [newline] at spelled
        have broken : normalize tables text = (py "NG-" ++ parts.categoryCode ++ py "-" ++ year ++ py "-" ++
            sequence ++ py "-" ++ [parts.check]) ++ [.scalar '\n'] := by
          rw [spelled]
          simp
        exact absurd broken (normalize_unbroken keeps)
    constructor
    · have upper : PyStr.upper tables parts.categoryCode = parts.categoryCode := upper_capitals capitals
      have yearText := @zeroPad_decimalNat tables year 4 (by omega) years yearLength
      have sequenceText := @zeroPad_decimalNat tables sequence 10 (by omega) sequences sequenceLength
      rw [← sameYear] at yearText
      rw [← sameSequence] at sequenceText
      have bounded : parts.sequence < 10 ^ 10 := by
        obtain ⟨values, small, rfl⟩ := digits_values sequences
        rw [sameSequence, decimalNat_digits small]
        have below := Nat.ofDigits_lt_base_pow_length (by omega : 1 < 10)
          (fun value member => small value (List.mem_reverse.mp member))
        rwa [List.length_reverse, ← List.length_map (f := Code.digit), sequenceLength] at below
      rw [buildSerial]
      simp only [upper, catLength, capitals, and_self, not_true_eq_false, if_false]
      rw [if_neg (by omega), if_neg (by omega), Int.toNat_natCast, Int.toNat_natCast, yearText,
        sequenceText, validate_check valid, same, spelled, single]
      rfl
    · rw [parseSerial, same, normalize_fixed (fun code member => codes code (cut ▸ member)), parsed]

/-- The ASCII tables keep lines apart. -/
theorem ascii_keepsLines : KeepsLines .ascii := by
  intro code solid
  cases code with
  | lone offset => exact ⟨by simp [Unicode.ascii], by simp [Unicode.ascii]⟩
  | scalar char =>
    refine ⟨by simp [Unicode.ascii], ?_⟩
    simp only [Unicode.ascii, List.mem_singleton, Code.scalar.injEq]
    intro same
    simp only [Unicode.ascii, Bool.or_eq_false_iff, decide_eq_false_iff_not] at solid
    have control : char.toUpper.toNat = 10 := by rw [← same]; decide
    by_cases small : 97 ≤ char.toNat ∧ char.toNat ≤ 122
    · have letter : ∀ value < 128, 97 ≤ value ∧ value ≤ 122 → (Char.ofNat value).toUpper.toNat ≠ 10 := by
        decide
      have apart := letter char.toNat (by omega) small
      rw [Char.ofNat_toNat] at apart
      exact apart control
    · have large : ¬ (char.val ≥ 'a'.val ∧ char.val ≤ 'z'.val) := by
        simpa [Char.le_def, UInt32.le_iff_toNat_le] using small
      have other : char.toUpper = char := dif_neg large
      rw [other] at control
      omega

/-- A built serial is parsed from its lower case between blanks. -/
theorem serial_codec_sample :
    ∃ serial check, buildSerial .ascii (py "TBC") 2026 42 = .ok serial ∧
      parseSerial .ascii (py " " ++ lower serial ++ py "  ") = .ok ⟨py "TBC", 2026, 42, check, serial⟩ := by
  obtain ⟨serial, check, built, _, _, parsed⟩ := (serial_codec ascii_keepsLines).1 (py "TBC") 2026 42
    rfl (by decide) (by omega) (by omega) (by omega)
  exact ⟨serial, check, built, parsed _ _ _ (Or.inr rfl) (by decide) (by decide)⟩

end RoundTrips

end TaxStamps.Serials
