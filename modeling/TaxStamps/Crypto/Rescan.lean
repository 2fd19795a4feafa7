import TaxStamps.Crypto.Numerals
import TaxStamps.Crypto.Representable

/-!
# Scanning a canonical text

What `json.loads` reads from the canonical text of a value. Strings, words and
the structure come back as they were. A number comes back as an integer or as
the same double, and the canonicalizer writes it as before, with one exception:
a float that is an integer beyond the safe range is written without an exponent
below 10^21, comes back as an integer, and is then refused.
-/

namespace TaxStamps

namespace Value

mutual

/-- The floats of a value, at every depth. -/
def floats : Value → List PyFloat
  | .float number => [number]
  | .list items => floatsItems items
  | .tuple items => floatsItems items
  | .dict members => floatsMembers members
  | _ => []

/-- The floats of the elements. -/
def floatsItems : List Value → List PyFloat
  | [] => []
  | item :: rest => floats item ++ floatsItems rest

/-- The floats of the values. -/
def floatsMembers : List (Key × Value) → List PyFloat
  | [] => []
  | (_, value) :: rest => floats value ++ floatsMembers rest

end

/-- A float of the elements is one of an element. -/
theorem mem_floatsItems {items : List Value} {number : PyFloat} :
    number ∈ floatsItems items ↔ ∃ item ∈ items, number ∈ item.floats := by
  induction items with
  | nil => simp [floatsItems]
  | cons item rest inductionHypothesis => simp [floatsItems, inductionHypothesis]

/-- A float of the values is one of a value. -/
theorem mem_floatsMembers {members : List (Key × Value)} {number : PyFloat} :
    number ∈ floatsMembers members ↔ ∃ member ∈ members, number ∈ member.2.floats := by
  induction members with
  | nil => simp [floatsMembers]
  | cons member rest inductionHypothesis => simp [floatsMembers, inductionHypothesis]

end Value

namespace Jcs

open Scanner

/-- A float that is an integer beyond the safe range, below the exponential
notation. -/
def Overlarge (number : PyFloat) : Prop :=
  ∃ value, number.number? = some value ∧ value.den = 1 ∧ maxSafeInteger < |value.num| ∧
    |value| < 10 ^ 21

section Numbers

/-- Only a nonnegative exponent leaves a mantissa that is no multiple of ten an
integer. -/
theorem exponent_nonneg {mantissa : Nat} {exp10 : Int} (odd : ¬ 10 ∣ mantissa)
    (integral : ((mantissa : ℚ) * (10 : ℚ) ^ exp10).den = 1) : 0 ≤ exp10 := by
  by_contra below
  obtain ⟨count, rfl⟩ : ∃ count : Nat, exp10 = -((count : Int) + 1) := ⟨(-exp10 - 1).toNat, by omega⟩
  have whole := (Rat.den_eq_one_iff _).mp integral
  generalize ((mantissa : ℚ) * (10 : ℚ) ^ (-((count : Int) + 1))).num = integer at whole
  have scaled : (mantissa : ℚ) = integer * (10 : ℚ) ^ (count + 1) := by
    rw [whole, zpow_neg, mul_assoc]
    have power : (10 : ℚ) ^ ((count : Int) + 1) = (10 : ℚ) ^ (count + 1) := by exact_mod_cast rfl
    rw [power, inv_mul_cancel₀ (pow_ne_zero _ (by norm_num)), mul_one]
  have exact_ : (mantissa : Int) = integer * 10 ^ (count + 1) := by exact_mod_cast scaled
  have divides : (10 : Int) ∣ mantissa := ⟨integer * 10 ^ count, by rw [exact_, pow_succ]; ring⟩
  exact odd (by exact_mod_cast divides)

/-- The digits and the exponent of an integer tell whether it is below 10^21. -/
theorem digits_bounded {mantissa : Nat} {exp10 : Int} (positive : mantissa ≠ 0) (natural : 0 ≤ exp10) :
    (PyStr.decimal mantissa).length + exp10 ≤ 21 ↔
      (mantissa : ℚ) * (10 : ℚ) ^ exp10 < 10 ^ 21 := by
  obtain ⟨count, rfl⟩ := Int.eq_ofNat_of_zero_le natural
  have power : (mantissa : ℚ) * (10 : ℚ) ^ (count : Int) < 10 ^ 21 ↔ mantissa * 10 ^ count < 10 ^ 21 := by
    rw [zpow_natCast]
    exact_mod_cast Iff.rfl
  rw [power]
  by_cases small : count ≤ 21
  · have split : (10 : Nat) ^ 21 = 10 ^ (21 - count) * 10 ^ count := by
      rw [← pow_add, Nat.sub_add_cancel small]
    rw [split, Nat.mul_lt_mul_right (pow_pos (by decide) count), ← decimal_length positive]
    omega
  · have large : (10 : Nat) ^ 21 ≤ mantissa * 10 ^ count :=
      (Nat.pow_le_pow_right (by decide) (by omega)).trans
        (Nat.le_mul_of_pos_left _ (Nat.pos_of_ne_zero positive))
    constructor
    · intro bounded
      omega
    · intro bounded
      omega

/-- How a number comes back from its text: written as before, unless it is an
overlarge float, which comes back as an integer that is refused. -/
structure NumberBack (interpreter : Interpreter) (text : PyStr) (overlarge : Prop) : Prop where
  literal : ∃ literal value, Numeral literal ∧ literalText literal = text ∧
    literal.value? interpreter = some value ∧ (¬ overlarge → encode value = .ok text) ∧
    (overlarge → ∀ other, encode value ≠ .ok other)

variable {interpreter : Interpreter}

/-- A safe integer has fewer digits than the limit of `int()`. -/
theorem safe_short {number : Int} (safe : number.natAbs ≤ maxSafeInteger.natAbs) :
    (PyStr.decimal number.natAbs).length ≤ 4300 := by
  by_cases zero : number.natAbs = 0
  · rw [zero]
    decide
  · have short : number.natAbs < 10 ^ 16 := lt_of_le_of_lt safe (by decide)
    have length := (decimal_length zero 16).mpr short
    omega

/-- An integer in the safe range comes back. -/
theorem integer_back {number : Int} (safe : number.natAbs ≤ maxSafeInteger.natAbs) {overlarge : Prop}
    (regular : ¬ overlarge) : NumberBack interpreter (PyStr.decimalInt number) overlarge := by
  obtain ⟨numeral, spelled⟩ := integer_numeral number
  refine ⟨integerLiteral number, .int number, numeral, spelled,
    integer_value interpreter (safe_short safe), fun _ => ?_, fun large => absurd large regular⟩
  rw [encode, encodeInt, if_pos safe]

/-- A float in the safe range is not overlarge. -/
theorem integral_regular {number : PyFloat} {integer : Int} (found : integral? number = some integer) :
    ¬ Overlarge number := by
  rintro ⟨value, stated, _, large, _⟩
  obtain ⟨denoted, safe⟩ := integral_some found
  obtain rfl := Option.some.inj (stated.symm.trans denoted)
  rw [Rat.num_intCast, Int.abs_eq_natAbs] at large
  have limit : (maxSafeInteger.natAbs : Int) = maxSafeInteger := rfl
  omega

/-- A signed magnitude has the size and the denominator of the magnitude. -/
theorem signed_size (negative : Bool) {magnitude : ℚ} (natural : 0 ≤ magnitude) :
    |if negative then -magnitude else magnitude| = magnitude ∧
      (if negative then -magnitude else magnitude).den = magnitude.den ∧
      |(if negative then -magnitude else magnitude).num| = magnitude.num := by
  have whole : 0 ≤ magnitude.num := Rat.num_nonneg.mpr natural
  cases negative with
  | true => exact ⟨by simpa using natural, by simp, by simpa using whole⟩
  | false => exact ⟨by simpa using natural, rfl, by simpa using whole⟩

/-- Whether a finite float is overlarge, by its magnitude. -/
theorem overlarge_iff {negative : Bool} {rep : Decimal} :
    Overlarge (.finite negative rep) ↔
      rep.magnitude.den = 1 ∧ maxSafeInteger < rep.magnitude.num ∧ rep.magnitude < 10 ^ 21 := by
  obtain ⟨size, denominator, numerator⟩ := signed_size negative (magnitude_nonneg rep)
  constructor
  · rintro ⟨value, stated, integral, large, below⟩
    obtain rfl := Option.some.inj stated
    rw [denominator] at integral
    rw [numerator] at large
    rw [size] at below
    exact ⟨integral, large, below⟩
  · rintro ⟨integral, large, below⟩
    refine ⟨_, rfl, ?_, ?_, ?_⟩
    · rw [denominator, integral]
    · rw [numerator]
      exact large
    · rw [size]
      exact below

/-- An integer beyond the safe range is refused. -/
theorem encode_beyond {number : Int} (beyond : maxSafeInteger.natAbs < number.natAbs) (text : PyStr) :
    encode (.int number) ≠ .ok text := by
  rw [encode, encodeInt, if_neg (Nat.not_le.mpr beyond)]
  split <;> exact fun absurdity => by cases absurdity

/-- A float that is a natural number and no integer in the safe range is beyond it. -/
theorem integral_beyond {negative : Bool} {rep : Decimal} {number : Nat} (whole : rep.magnitude = number)
    (beyond : integral? (.finite negative rep) = none) : maxSafeInteger < number := by
  obtain ⟨_, denominator, numerator⟩ := signed_size negative (magnitude_nonneg rep)
  rw [whole, Rat.den_natCast] at denominator
  rw [whole, Rat.num_natCast, Int.abs_eq_natAbs] at numerator
  by_contra within
  have safe : (if negative then -(number : ℚ) else number).num.natAbs ≤ maxSafeInteger.natAbs := by
    have limit : (maxSafeInteger.natAbs : Int) = maxSafeInteger := rfl
    omega
  simp only [integral?, PyFloat.number?, whole, denominator, safe, and_self, if_true] at beyond
  cases beyond

/-- A float that is no integer in the safe range is written in the notation of
its digits, and comes back unless it is overlarge. -/
theorem digits_back {negative : Bool} {rep : Decimal} {text : PyStr}
    (printed : interpreter.printed rep) (nonzero : rep.magnitude ≠ 0)
    (beyond : integral? (.finite negative rep) = none)
    (encoded : encodeFloat (.finite negative rep) = .ok text) :
    NumberBack interpreter text (Overlarge (.finite negative rep)) := by
  obtain ⟨mantissa, odd, digits, value⟩ := shortestDigits_mantissa nonzero
  have written : text = (if negative then [Code.scalar '-'] else []) ++
      ecmaText (PyStr.decimal mantissa) (shortestDigits rep.text).2 := by
    rw [encodeFloat, beyond] at encoded
    simp only [numberToString, nonzero, if_false, digits] at encoded
    exact (Except.ok.inj encoded).symm
  generalize (shortestDigits rep.text).2 = exp10 at value written
  have positive : mantissa ≠ 0 := by
    rintro rfl
    exact odd (dvd_zero 10)
  obtain ⟨literal, numeral, sign, spelled, integer, short⟩ := ecma_numeral positive exp10 negative
  have size : literal.magnitude = rep.magnitude := by
    have denoted := (ecmaText_denotes (decimal_present mantissa) (decimal_digits mantissa) exp10).value
    rw [magnitude_text numeral, spelled, denoted, digitsNat_decimal, value]
  have whole_text : literalText literal = text := by
    rw [written, literalText, sign, spelled]
  by_cases groups : literal.fraction = [] ∧ literal.exponent = []
  · obtain ⟨natural, bounded⟩ := integer.mp groups
    have read : literal.value? interpreter = some (.int (if literal.negative then
        -(digitsNat literal.whole : Int) else digitsNat literal.whole)) := by
      have within := short natural bounded
      rw [NumberLiteral.value?, if_pos groups, if_neg (by omega)]
    have whole : rep.magnitude = (digitsNat literal.whole : ℚ) := by
      rw [← size, NumberLiteral.magnitude, groups.1, groups.2, List.append_nil]
      simp [signedInt, digitsNat]
    have large : maxSafeInteger < (digitsNat literal.whole : Int) := integral_beyond whole beyond
    have overlarge : Overlarge (.finite negative rep) := by
      rw [overlarge_iff]
      refine ⟨by rw [whole, Rat.den_natCast], by rw [whole, Rat.num_natCast]; exact large, ?_⟩
      rw [← value]
      exact (digits_bounded positive natural).mp bounded
    refine ⟨literal, _, numeral, whole_text, read, fun regular => absurd overlarge regular, ?_⟩
    intro _ other
    exact encode_beyond (by
      have limit : (maxSafeInteger.natAbs : Int) = maxSafeInteger := rfl
      split <;> omega) other
  · have regular : ¬ Overlarge (.finite negative rep) := by
      rw [overlarge_iff, ← value]
      rintro ⟨integral, _, below⟩
      have natural := exponent_nonneg odd integral
      exact groups (integer.mpr ⟨natural, (digits_bounded positive natural).mpr below⟩)
    refine ⟨literal, .float (interpreter.nearest literal.negative literal.magnitude), numeral,
      whole_text, ?_, fun _ => ?_, fun large => absurd large regular⟩
    · rw [NumberLiteral.value?, if_neg groups]
    · have same := interpreter.nearest_printed negative rep printed
      have denoted : (PyFloat.finite negative rep).number? =
        some (if negative then -rep.magnitude else rep.magnitude) := rfl
      rw [encode, sign, size, encodeFloat_unique (same.trans denoted) denoted, encoded]

/-- A float that is written comes back unless it is overlarge. -/
theorem float_back {number : PyFloat} {text : PyStr}
    (printed : ∀ negative rep, number = .finite negative rep → interpreter.printed rep)
    (encoded : encodeFloat number = .ok text) : NumberBack interpreter text (Overlarge number) := by
  cases found : integral? number with
  | some integer =>
    have safe := (integral_some found).2
    rw [encodeFloat, found] at encoded
    rw [← Except.ok.inj encoded]
    exact integer_back safe (integral_regular found)
  | none =>
    cases number with
    | nan =>
      rw [encodeFloat, found] at encoded
      cases encoded
    | infinity negative =>
      rw [encodeFloat, found] at encoded
      cases encoded
    | finite negative rep =>
      have nonzero : rep.magnitude ≠ 0 := by
        intro zero
        have large := @integral_beyond negative rep 0 (by rw [zero]; rfl) found
        exact absurd large (by decide)
      exact digits_back (printed negative rep rfl) nonzero found encoded

end Numbers

section Strings

/-- A character that needs no escape. -/
theorem escape_plain {code : Code} (control : ¬ code.ord < 32)
    (special : ¬ (code.ord = 34 ∨ code.ord = 92)) :
    escapeCode code = [code] ∧ code ≠ quote ∧ code ≠ backslash := by
  refine ⟨?_, ?_, ?_⟩
  · unfold escapeCode
    split <;> first | omega | rfl | skip
    rw [if_neg control]
  · rintro rfl
    exact special (Or.inl rfl)
  · rintro rfl
    exact special (Or.inr rfl)

/-- The text of a character does not begin like the closing quote, and reads
back, whatever follows it. -/
theorem readCode_escape (code : Code) (rest : PyStr) :
    ∃ first more, escapeCode code ++ rest = first :: more ∧ first ≠ quote ∧
      readCode (first :: more) = some (code, rest) := by
  by_cases control : code.ord < 32
  · have same : code = .scalar (Char.ofNat code.ord) := control_code (by omega)
    generalize code.ord = value at control same
    subst same
    interval_cases value <;> exact ⟨backslash, _, rfl, by decide, rfl⟩
  · by_cases special : code.ord = 34 ∨ code.ord = 92
    · have same : code = .scalar (Char.ofNat code.ord) := control_code (by omega)
      rcases special with value | value <;>
      · rw [value] at same
        subst same
        exact ⟨backslash, _, rfl, by decide, rfl⟩
    · obtain ⟨plain, notQuote, notEscape⟩ := escape_plain control special
      refine ⟨code, rest, by rw [plain]; rfl, notQuote, ?_⟩
      simp [readCode, notEscape, control]

/-- A string is read up to its closing quote. -/
theorem scanString_escape (text tail : PyStr) {count : Nat} (enough : text.length < count) :
    scanString count (text.flatMap escapeCode ++ quote :: tail) = some (text, tail) := by
  induction text generalizing count with
  | nil =>
    obtain ⟨count, rfl⟩ : ∃ less, count = less + 1 := ⟨count - 1, by simp at enough; omega⟩
    rfl
  | cons code others inductionHypothesis =>
    obtain ⟨count, rfl⟩ : ∃ less, count = less + 1 := ⟨count - 1, by simp at enough; omega⟩
    have fewer : others.length < count := by
      rw [List.length_cons] at enough
      omega
    obtain ⟨first, more, split, open_, read⟩ :=
      readCode_escape code (others.flatMap escapeCode ++ quote :: tail)
    rw [List.flatMap_cons, List.append_assoc, split, scanString, if_neg open_, read]
    simp only [inductionHypothesis fewer, Option.map_some]

/-- A text is no longer than its escaped form. -/
theorem escaped_length (text : PyStr) : text.length ≤ (text.flatMap escapeCode).length := by
  rw [List.length_flatMap, ← List.length_map]
  refine List.length_le_sum_of_one_le _ fun size listed => ?_
  obtain ⟨code, _, rfl⟩ := List.mem_map.mp listed
  obtain ⟨first, more, split, _⟩ := readCode_escape code []
  rw [List.append_nil] at split
  rw [split, List.length_cons]
  omega

/-- A string is scanned with any count up to the length of what is left. -/
theorem scanString_rest (text tail : PyStr) :
    scanString (text.flatMap escapeCode ++ quote :: tail).length
      (text.flatMap escapeCode ++ quote :: tail) = some (text, tail) := by
  apply scanString_escape
  have length := escaped_length text
  rw [List.length_append, List.length_cons]
  omega

end Strings

section Values

variable {interpreter : Interpreter}

/-- What an encoded value begins with is neither blank nor a closing bracket. -/
theorem kind_start {code : Code} (known : kindOf code ≠ .other) :
    blank code = false ∧ code ≠ .scalar ']' ∧ code ≠ .scalar '\x7d' := by
  have blanks : ∀ other ∈ [Code.scalar ' ', .scalar (Char.ofNat 9), .scalar (Char.ofNat 10),
      .scalar (Char.ofNat 13)], kindOf other = .other := by decide
  refine ⟨decide_eq_false fun listed => known (blanks code listed), ?_, ?_⟩
  · rintro rfl
    exact known rfl
  · rintro rfl
    exact known rfl

/-- An encoded value starts with the character of a value. -/
theorem encoded_start {value : Value} {text : PyStr} (encoded : encode value = .ok text) :
    ∃ code rest, text = code :: rest ∧ kindOf code = kind value ∧ kindOf code ≠ .other := by
  obtain ⟨code, rest, split, kinded⟩ := encode_kind encoded
  refine ⟨code, rest, split, kinded, ?_⟩
  rw [kinded]
  cases value with
  | foreign typeName => cases encoded
  | bool flag => cases flag <;> exact fun absurdity => by cases absurdity
  | _ => exact fun absurdity => by cases absurdity

/-- No white space stands before a character that is none. -/
theorem skipBlanks_start {code : Code} (known : blank code = false) (rest : PyStr) :
    skipBlanks (code :: rest) = code :: rest := List.dropWhile_cons_of_neg (by simp [known])

/-- A comma and a closing bracket end a value and are no blanks. -/
theorem marks {close : Code} (closing : close = .scalar ']' ∨ close = .scalar '\x7d') :
    Separated.Marks skipBlanks (.scalar ',') close Ends := by
  have ending : ∀ mark ∈ [Code.scalar ',', .scalar ']', .scalar '\x7d'], ∀ tail, Ends (mark :: tail) := by
    intro mark listed tail code rest split
    rw [← (List.cons.inj split).1]
    exact listed
  rcases closing with rfl | rfl <;>
  · constructor
    case different => decide
    case separates => exact ending _ (by decide)
    case closes => exact ending _ (by decide)
    case separator_kept => exact fun tail => rfl
    case close_kept => exact fun tail => rfl

/-- The joined texts of a sequence are scanned as the sequence. -/
theorem scanSequence_joined {α : Type} {element : PyStr → Option (α × PyStr)} {close : Code}
    (closing : close = .scalar ']' ∨ close = .scalar '\x7d') {texts : List PyStr} {values : List α}
    (each : List.Forall₂ (Separated.Reads element Ends) texts values)
    (starts : ∀ text ∈ texts, ∃ code rest, text = code :: rest ∧ blank code = false ∧ code ≠ close)
    (tail : PyStr) :
    scanSequence element close (PyStr.join (py ",") texts ++ close :: tail) = some (values, tail) := by
  have marked := marks closing
  cases each with
  | nil =>
    rw [PyStr.join, List.nil_append, scanSequence, marked.close_kept]
    simp only [if_true]
  | @cons text value texts values here others =>
    obtain ⟨code, rest, split, notBlank, notClose⟩ := starts text List.mem_cons_self
    have kept : ∀ other ∈ texts, ∀ following, skipBlanks (other ++ following) = other ++ following := by
      intro other listed following
      obtain ⟨first, more, same, plain, _⟩ := starts other (List.mem_cons_of_mem _ listed)
      rw [same, List.cons_append, skipBlanks_start plain]
    have joined : PyStr.join (py ",") (text :: texts) ++ close :: tail =
        text ++ (texts.flatMap (fun text => .scalar ',' :: text) ++ close :: tail) := by
      rw [join_comma, List.append_assoc]
    have enough : texts.length < (text ++ (texts.flatMap (fun text => Code.scalar ',' :: text) ++
        close :: tail)).length := by
      have length : texts.length ≤ (texts.flatMap (fun text => Code.scalar ',' :: text)).length := by
        rw [List.length_flatMap, ← List.length_map]
        refine List.length_le_sum_of_one_le _ fun size listed => ?_
        obtain ⟨other, _, rfl⟩ := List.mem_map.mp listed
        rw [List.length_cons]
        omega
      rw [List.length_append, List.length_append, List.length_cons]
      omega
    have read := Separated.read_joined marked here others kept enough tail
    rw [joined, scanSequence]
    rw [split, List.cons_append] at read ⊢
    rw [skipBlanks_start notBlank]
    simp only [notClose, if_false]
    exact read

/-- A joined text is at least as long as each text. -/
theorem join_length {texts : List PyStr} {text : PyStr} (listed : text ∈ texts) :
    text.length ≤ (PyStr.join (py ",") texts).length := by
  cases texts with
  | nil => cases listed
  | cons first rest =>
    rw [join_comma, List.length_append]
    rcases List.mem_cons.mp listed with rfl | later
    · omega
    · have part : (Code.scalar ',' :: text).length ≤
          (rest.flatMap (fun text => Code.scalar ',' :: text)).length := by
        rw [List.flatMap_def]
        exact (List.sublist_flatten_of_mem (List.mem_map.mpr ⟨text, later, rfl⟩)).length_le
      rw [List.length_cons] at part
      omega

/-- The text of a value reads back as a value that is written as before, unless
an overlarge float stands in it. -/
structure Rescanned (interpreter : Interpreter) (value : Value) (text : PyStr) (back : Value) : Prop where
  scanned : ∀ depth, text.length ≤ depth →
    Separated.Reads (scanOnce interpreter depth) Ends text back
  restored : (∀ number ∈ value.floats, ¬ Overlarge number) → encode back = .ok text
  refused : (∃ number ∈ value.floats, Overlarge number) → ∀ other, encode back ≠ .ok other

/-- A value without floats whose text reads back as it is. -/
theorem rescanned_plain {value : Value} {text : PyStr} (plain : value.floats = [])
    (encoded : encode value = .ok text)
    (reads : ∀ depth tail, scanOnce interpreter (depth + 1) (text ++ tail) = some (value, tail)) :
    Rescanned interpreter value text value where
  scanned depth enough tail _ := by
    obtain ⟨code, rest, rfl, _⟩ := encode_kind encoded
    obtain ⟨depth, rfl⟩ : ∃ less, depth = less + 1 := ⟨depth - 1, by simp at enough; omega⟩
    exact reads depth tail
  restored _ := encoded
  refused := by
    rintro ⟨number, listed, _⟩
    rw [plain] at listed
    cases listed

/-- No word begins like a number. -/
theorem no_word {code : Code} (number : kindOf code = .number) (rest : PyStr) :
    scanWord (code :: rest) words = none := by
  have apart : ∀ other, kindOf other ≠ .number → code ≠ other := by
    rintro other differs rfl
    exact differs number
  have null : ((code :: rest).take (py "null").length) ≠ py "null" := fun same =>
    apart (.scalar 'n') (by decide) (List.cons.inj same).1
  have true_ : ((code :: rest).take (py "true").length) ≠ py "true" := fun same =>
    apart (.scalar 't') (by decide) (List.cons.inj same).1
  have false_ : ((code :: rest).take (py "false").length) ≠ py "false" := fun same =>
    apart (.scalar 'f') (by decide) (List.cons.inj same).1
  rw [words, scanWord, if_neg null, scanWord, if_neg true_, scanWord, if_neg false_, scanWord]

/-- A number reads back as the value of its literal. -/
theorem rescanned_number {value : Value} {text : PyStr} (number : kind value = .number)
    (encoded : encode value = .ok text) {overlarge : Prop} (back : NumberBack interpreter text overlarge)
    (floats : overlarge ↔ ∃ number ∈ value.floats, Overlarge number) :
    ∃ back, Rescanned interpreter value text back := by
  obtain ⟨literal, read, numeral, spelled, stated, restored, refused⟩ := back
  obtain ⟨code, rest, split, kinded, _⟩ := encoded_start encoded
  rw [number] at kinded
  have apart : ∀ other, kindOf other ≠ .number → code ≠ other := by
    rintro other differs rfl
    exact differs kinded
  refine ⟨read, ?_, ?_, ?_⟩
  · intro depth enough tail ends
    obtain ⟨depth, rfl⟩ : ∃ less, depth = less + 1 := ⟨depth - 1, by simp [split] at enough; omega⟩
    have scanned := scanNumber_text numeral ends
    rw [spelled, split, List.cons_append] at scanned
    rw [split, List.cons_append, scanOnce, if_neg (apart _ (by decide)), if_neg (apart _ (by decide)),
      if_neg (apart _ (by decide)), no_word kinded, scanned]
    simp only [stated, Option.map_some]
  · intro regular
    exact restored fun large => by
      obtain ⟨other, listed, beyond⟩ := floats.mp large
      exact regular other listed beyond
  · exact fun large => refused (floats.mpr large)

/-- Items that read back make a list that reads back. -/
theorem rescanned_list {items : List Value} {text : PyStr} (encoded : encode (.list items) = .ok text)
    {back : Value → Value}
    (each : ∀ item ∈ items, Rescanned interpreter item (rendered item) (back item)) :
    Rescanned interpreter (.list items) text (.list (items.map back)) := by
  obtain ⟨rfl, encodes⟩ := encodeList_ok encoded
  constructor
  case scanned =>
    intro depth enough tail _
    obtain ⟨depth, rfl⟩ : ∃ less, depth = less + 1 := ⟨depth - 1, by simp at enough; omega⟩
    have reads : List.Forall₂ (Separated.Reads (scanOnce interpreter depth) Ends) (items.map rendered)
        (items.map back) := by
      rw [List.forall₂_map_left_iff, List.forall₂_map_right_iff, List.forall₂_same]
      intro item listed
      have within := join_length (List.mem_map_of_mem (f := rendered) listed)
      refine (each item listed).scanned depth ?_
      simp only [List.length_cons, List.length_append] at enough
      omega
    have starts : ∀ text ∈ items.map rendered, ∃ code rest, text = code :: rest ∧ blank code = false ∧
        code ≠ .scalar ']' := by
      intro text listed
      obtain ⟨item, present, rfl⟩ := List.mem_map.mp listed
      obtain ⟨code, rest, split, _, known⟩ := encoded_start (encodes item present)
      exact ⟨code, rest, split, (kind_start known).1, (kind_start known).2.1⟩
    have scanned := scanSequence_joined (Or.inl rfl) reads starts tail
    rw [List.cons_append, List.append_assoc]
    exact congrArg (Option.map fun read => (Value.list read.1, read.2)) scanned
  case restored =>
    intro regular
    have same : List.Forall₂ (fun first second => encode first = encode second) (items.map back) items := by
      rw [List.forall₂_map_left_iff, List.forall₂_same]
      intro item listed
      rw [encodes item listed]
      refine (each item listed).restored fun number held => regular number ?_
      exact Value.mem_floatsItems.mpr ⟨item, listed, held⟩
    rw [encode, encodeItems_congr same, ← encode]
    exact encoded
  case refused =>
    rintro ⟨number, held, large⟩ other written
    obtain ⟨item, listed, held⟩ := Value.mem_floatsItems.mp held
    exact (each item listed).refused ⟨number, held, large⟩ _
      ((encodeList_ok written).2 (back item) (List.mem_map_of_mem listed))

/-- A written list is scanned element by element, up to the bracket. -/
theorem rescanned_items {items : List Value} {text : PyStr} (canonical : Canonical (.list items))
    (distinct : (Value.list items).distinct = true) (encoded : encode (.list items) = .ok text)
    (each : ∀ item ∈ items, Canonical item → item.distinct = true → encode item = .ok (rendered item) →
      ∃ back, Rescanned interpreter item (rendered item) back) :
    ∃ back, Rescanned interpreter (.list items) text back := by
  have nonempty : Nonempty Value := ⟨.none⟩
  rw [Value.distinct, Value.distinctItems_iff] at distinct
  have backs := fun item listed => each item listed (canonical.items item listed) (distinct item listed)
    ((encodeList_ok encoded).2 item listed)
  choose! back back_spec using backs
  exact ⟨_, rescanned_list encoded back_spec⟩

/-- A member is scanned with its name. -/
theorem scanMember_text {depth : Nat} {name : PyStr} {text : PyStr} {back : Value}
    (reads : Separated.Reads (scanOnce interpreter depth) Ends text back)
    (starts : ∃ code rest, text = code :: rest ∧ blank code = false) :
    Separated.Reads (scanMember (scanOnce interpreter depth)) Ends
      (escapeString name ++ .scalar ':' :: text) (.str name, back) := by
  intro tail ends
  obtain ⟨code, rest, rfl, plain⟩ := starts
  have form : escapeString name ++ .scalar ':' :: code :: rest ++ tail =
      quote :: (name.flatMap escapeCode ++ quote :: .scalar ':' :: code :: (rest ++ tail)) := by
    simp [escapeString]
  have colon : ∀ following, skipBlanks (.scalar ':' :: following) = .scalar ':' :: following :=
    fun _ => rfl
  have value := reads tail ends
  rw [List.cons_append] at value
  rw [form, scanMember, if_pos rfl, scanString_rest]
  simp only [colon, skipBlanks_start plain, value, Option.map_some]

/-- Sorting the members of an object does not change its text. -/
theorem encode_sorted {members : List (Key × Value)} (distinct : (members.map Prod.fst).Nodup)
    (encodes : ∀ member ∈ members, encodableKey member.1 = true) :
    encode (.dict (sortMembers members)) = encode (.dict members) := by
  have permuted := sortMembers_perm members
  have names : (sortMembers members).all (fun member => isName member.1) =
      members.all (fun member => isName member.1) := by
    rw [Bool.eq_iff_iff, List.all_eq_true, List.all_eq_true]
    exact ⟨fun all member listed => all member (permuted.mem_iff.mpr listed),
      fun all member listed => all member (permuted.mem_iff.mp listed)⟩
  have again : sortMembers (sortMembers members) = sortMembers members :=
    (sortMembers_unique permuted.symm distinct encodes).symm
  rw [encode, encode, names, encodeMembers_map, encodeMembers_map, sortMembers_map, sortMembers_map, again]

/-- Members that read back make an object that reads back. -/
theorem rescanned_dict {members : List (Key × Value)} {text : PyStr}
    (encoded : encode (.dict members) = .ok text) (distinct : (members.map Prod.fst).Nodup)
    (encodable : ∀ member ∈ members, encodableKey member.1 = true) {back : Key × Value → Value}
    (each : ∀ member ∈ members,
      Rescanned interpreter member.2 (rendered member.2) (back member)) :
    Rescanned interpreter (.dict members) text
      (.dict ((sortMembers members).map (fun member => (member.1, back member)))) := by
  obtain ⟨rfl, encodes⟩ := encodeDict_ok encoded
  have permuted := sortMembers_perm members
  have listed : ∀ member ∈ sortMembers members, member ∈ members :=
    fun member held => permuted.mem_iff.mp held
  constructor
  case scanned =>
    intro depth enough tail _
    obtain ⟨depth, rfl⟩ : ∃ less, depth = less + 1 := ⟨depth - 1, by simp at enough; omega⟩
    have reads : List.Forall₂ (Separated.Reads (scanMember (scanOnce interpreter depth)) Ends)
        ((sortMembers members).map memberText)
        ((sortMembers members).map (fun member => (member.1, back member))) := by
      rw [List.forall₂_map_left_iff, List.forall₂_map_right_iff, List.forall₂_same]
      rintro ⟨key, value⟩ held
      have here := listed _ held
      have within := join_length (List.mem_map_of_mem (f := memberText) held)
      obtain ⟨code, rest, split, _, known⟩ := encoded_start (encodes _ here)
      cases key with
      | other tag =>
        have refused := encodable _ here
        cases refused
      | str name =>
        have shallow : (rendered value).length ≤ depth := by
          simp only [List.length_cons, List.length_append, memberText] at enough within
          omega
        exact scanMember_text ((each _ here).scanned depth shallow) ⟨code, rest, split, (kind_start known).1⟩
    have starts : ∀ text ∈ (sortMembers members).map memberText, ∃ code rest, text = code :: rest ∧
        blank code = false ∧ code ≠ .scalar '\x7d' := by
      intro text present
      obtain ⟨member, _, rfl⟩ := List.mem_map.mp present
      exact ⟨quote, _, rfl, by decide, by decide⟩
    have keys : (((sortMembers members).map (fun member => (member.1, back member))).map Prod.fst).Nodup := by
      rw [List.map_map]
      exact (permuted.map Prod.fst).nodup_iff.mpr distinct
    have scanned := scanSequence_joined (Or.inr rfl) reads starts tail
    rw [List.cons_append, List.append_assoc, scanOnce]
    have read := congrArg (Option.map fun read => (Value.dict (Value.ofPairs read.1), read.2)) scanned
    rw [Option.map_some, Value.ofPairs_distinct keys] at read
    exact read
  case restored =>
    intro regular
    have same : ((sortMembers members).map (fun member => (member.1, back member))).map
        (fun member => (member.1, encode member.2)) =
        (sortMembers members).map (fun member => (member.1, encode member.2)) := by
      rw [List.map_map]
      refine List.map_congr_left fun member held => ?_
      have here := listed member held
      have text := (each member here).restored fun number present => regular number
        (Value.mem_floatsMembers.mpr ⟨member, here, present⟩)
      rw [Function.comp_apply, text, encodes member here]
    rw [encode_members same, encode_sorted distinct encodable]
    exact encoded
  case refused =>
    rintro ⟨number, held, large⟩ other written
    obtain ⟨member, here, held⟩ := Value.mem_floatsMembers.mp held
    have kept : (member.1, back member) ∈ (sortMembers members).map (fun member => (member.1, back member)) :=
      List.mem_map_of_mem (f := fun member => (member.1, back member)) (permuted.mem_iff.mpr here)
    exact (each member here).refused ⟨number, held, large⟩ _ ((encodeDict_ok written).2 _ kept)

/-- The canonical text of a value reads back. -/
theorem rescanned {value : Value} (canonical : Canonical value) (distinct : value.distinct = true)
    (printed : ∀ negative rep, .finite negative rep ∈ value.floats → interpreter.printed rep) {text : PyStr}
    (encoded : encode value = .ok text) : ∃ back, Rescanned interpreter value text back := by
  have nonempty : Nonempty Value := ⟨.none⟩
  induction value using Value.induct generalizing text with
  | none =>
    cases encoded
    exact ⟨_, rescanned_plain rfl rfl fun depth tail => rfl⟩
  | bool flag =>
    cases flag <;>
    · cases encoded
      exact ⟨_, rescanned_plain rfl rfl fun depth tail => rfl⟩
  | str name =>
    cases encoded
    refine ⟨_, rescanned_plain rfl rfl fun depth tail => ?_⟩
    have form : escapeString name ++ tail = quote :: (name.flatMap escapeCode ++ quote :: tail) := by
      simp [escapeString]
    rw [form, scanOnce, if_pos rfl, scanString_rest, Option.map_some]
  | int number =>
    have safe := int_bounded canonical
    have same : text = PyStr.decimalInt number := by
      rw [encode, encodeInt, if_pos safe] at encoded
      exact (Except.ok.inj encoded).symm
    have back : NumberBack interpreter text False := same ▸ integer_back safe id
    refine rescanned_number rfl encoded back ⟨fun absurdity => absurdity.elim, ?_⟩
    rintro ⟨other, held, _⟩
    cases held
  | float number =>
    have kept : ∀ negative rep, number = .finite negative rep → interpreter.printed rep := by
      rintro negative rep rfl
      exact printed negative rep List.mem_cons_self
    refine rescanned_number rfl encoded (float_back kept encoded) ?_
    simp [Value.floats]
  | list items each =>
    exact rescanned_items canonical distinct encoded fun item listed canonical distinct encoded =>
      each item listed canonical distinct
        (fun negative rep held => printed negative rep (Value.mem_floatsItems.mpr ⟨item, listed, held⟩))
        encoded
  | tuple items each =>
    have same : encode (.tuple items) = encode (.list items) := by simp only [encode]
    have listed : Canonical (.list items) := by
      obtain ⟨text, encoded, carried⟩ := canonical
      exact ⟨text, same.symm.trans encoded, carried⟩
    obtain ⟨back, scanned, restored, refused⟩ := rescanned_items listed distinct (same.symm.trans encoded)
      fun item listed canonical distinct encoded => each item listed canonical distinct
        (fun negative rep held => printed negative rep (Value.mem_floatsItems.mpr ⟨item, listed, held⟩))
        encoded
    exact ⟨back, scanned, restored, refused⟩
  | dict members each =>
    rw [Value.distinct, Bool.and_eq_true, decide_eq_true_iff, Value.distinctMembers_iff] at distinct
    have encodes := (encodeDict_ok encoded).2
    have backs := fun member listed => each member listed (canonical.members member listed).2
      (distinct.2 member listed)
      (fun negative rep held => printed negative rep (Value.mem_floatsMembers.mpr ⟨member, listed, held⟩))
      (encodes member listed)
    choose! back back_spec using backs
    exact ⟨_, rescanned_dict encoded distinct.1 (fun member listed => (canonical.members member listed).1)
      back_spec⟩
  | foreign typeName => cases encoded

end Values

end Jcs

end TaxStamps
