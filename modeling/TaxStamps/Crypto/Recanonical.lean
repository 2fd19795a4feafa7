import TaxStamps.Crypto.Rescan
import TaxStamps.Jsonb

/-!
# Canonicalizing canonical bytes

A verifier parses bytes and canonicalizes them again. Canonical bytes are UTF-8
for the detection of `json.loads`, since their first two bytes are no zeros, and
decode to the canonical text. They come back as they are unless an overlarge
float stands in the value.
-/

namespace TaxStamps.Jcs

open Scanner

/-- `parse_and_canonicalize`. -/
def parseAndCanonicalize (interpreter : Interpreter) (raw : Raw) : Result Bytes := do
  let data ← loads interpreter raw
  canonicalizeBytes data

section Visible

/-- No control character. -/
def visible (code : Code) : Bool := decide (32 ≤ code.ord)

/-- An escaped character is written with visible characters. -/
theorem escapeCode_visible (code : Code) : (escapeCode code).all visible = true := by
  by_cases control : code.ord < 32
  · have same : code = .scalar (Char.ofNat code.ord) := control_code (by omega)
    generalize code.ord = value at control same
    subst same
    interval_cases value <;> rfl
  · by_cases special : code.ord = 34 ∨ code.ord = 92
    · have same : code = .scalar (Char.ofNat code.ord) := control_code (by omega)
      rcases special with value | value <;>
      · rw [value] at same
        subst same
        rfl
    · rw [(escape_plain control special).1, List.all_cons, List.all_nil, Bool.and_true, visible,
        decide_eq_true_iff]
      omega

/-- A written string is visible. -/
theorem escapeString_visible (text : PyStr) : (escapeString text).all visible = true := by
  have each : (text.flatMap escapeCode).all visible = true := by
    rw [List.all_flatMap, List.all_eq_true]
    exact fun code _ => escapeCode_visible code
  rw [escapeString, List.all_cons, List.all_append, each]
  rfl

/-- The characters of a number are visible. -/
theorem number_visible {text : PyStr} {number : ℚ} (stated : NumberText text number) :
    text.all visible = true := by
  have each := List.all_eq_true.mp stated.codes
  rw [List.all_eq_true]
  intro code member
  have numeric := each code member
  cases code with
  | lone offset => simp [numberCode, digitCode, Code.digitValue?] at numeric
  | scalar char =>
    rw [visible, decide_eq_true_iff, Code.ord]
    by_cases digit : 48 ≤ char.toNat
    · omega
    · have marks : char = '-' ∨ char = '+' ∨ char = '.' ∨ char = 'e' := by
        simpa [numberCode, digitCode, Code.digitValue?, digit, or_assoc] using numeric
      rcases marks with rfl | rfl | rfl | rfl <;> decide

/-- A written list is visible if its elements are. -/
theorem items_visible {items : List Value} {text : PyStr} (encoded : encode (.list items) = .ok text)
    (each : ∀ item ∈ items, ∀ {text : PyStr}, encode item = .ok text → text.all visible = true) :
    text.all visible = true := by
  obtain ⟨rfl, encodes⟩ := encodeList_ok encoded
  have joined : (PyStr.join (py ",") (items.map rendered)).all visible = true := by
    apply join_all (by decide)
    intro text listed
    obtain ⟨item, member, rfl⟩ := List.mem_map.mp listed
    exact each item member (encodes item member)
  rw [List.all_cons, List.all_append, joined]
  rfl

/-- A canonical text holds no control character. -/
theorem encode_visible {value : Value} {text : PyStr} (encoded : encode value = .ok text) :
    text.all visible = true := by
  induction value using Value.induct generalizing text with
  | none =>
    cases encoded
    decide
  | bool flag => cases flag <;> cases encoded <;> decide
  | int number => exact number_visible (encodeInt_number encoded)
  | float number =>
    obtain ⟨_, _, stated⟩ := encodeFloat_number encoded
    exact number_visible stated
  | str name =>
    cases encoded
    exact escapeString_visible name
  | list items each =>
    exact items_visible encoded each
  | tuple items each =>
    have same : encode (.tuple items) = encode (.list items) := by simp only [encode]
    exact items_visible (same.symm.trans encoded) each
  | dict members each =>
    obtain ⟨rfl, encodes⟩ := encodeDict_ok encoded
    have joined : (PyStr.join (py ",") ((sortMembers members).map memberText)).all visible = true := by
      apply join_all (by decide)
      intro text listed
      obtain ⟨member, sorted, rfl⟩ := List.mem_map.mp listed
      have present := (sortMembers_perm members).mem_iff.mp sorted
      rw [memberText, List.all_append, List.all_cons, escapeString_visible,
        each member present (encodes member present)]
      rfl
    rw [List.all_cons, List.all_append, joined]
    rfl
  | foreign typeName => cases encoded

end Visible

section Decoding

/-- UTF-8 decodes what it encodes. -/
theorem decodeUtf8_chars (chars : List Char) {count : Nat}
    (enough : (chars.flatMap String.utf8EncodeChar).length ≤ count) :
    decodeUtf8 count (chars.flatMap String.utf8EncodeChar) = some (chars.map Code.scalar) := by
  induction chars generalizing count with
  | nil => cases count <;> rfl
  | cons char rest inductionHypothesis =>
    have size := String.length_utf8EncodeChar char
    have positive := char.utf8Size_pos
    rw [List.flatMap_cons, List.length_append] at enough
    obtain ⟨count, rfl⟩ : ∃ less, count = less + 1 := ⟨count - 1, by omega⟩
    have read : (String.utf8EncodeChar char ++ rest.flatMap String.utf8EncodeChar).toByteArray.utf8DecodeChar? 0 =
        some char := by
      rw [List.toByteArray_append]
      exact ByteArray.utf8DecodeChar?_utf8EncodeChar_append
    have others : decodeUtf8 count (rest.flatMap String.utf8EncodeChar) = some (rest.map Code.scalar) :=
      inductionHypothesis (by omega)
    have dropped : (String.utf8EncodeChar char ++ rest.flatMap String.utf8EncodeChar).drop char.utf8Size =
        rest.flatMap String.utf8EncodeChar := by
      rw [← size, List.drop_left]
    rw [List.flatMap_cons, List.map_cons]
    cases split : String.utf8EncodeChar char with
    | nil => rw [split, List.length_nil] at size; omega
    | cons byte more =>
      rw [split, List.cons_append] at read dropped
      rw [List.cons_append, decodeUtf8, read]
      · simp only [dropped, others, Option.map_some]
      · exact fun absurdity => by cases absurdity

/-- The bytes of a visible character are no zeros. -/
theorem utf8_nonzero {char : Char} (shown : 32 ≤ char.toNat) :
    ∀ byte ∈ String.utf8EncodeChar char, byte ≠ 0 := by
  unfold String.utf8EncodeChar
  have same : char.toNat = char.val.toNat := rfl
  generalize char.val.toNat = number at *
  dsimp only
  split
  · simp [← UInt8.toNat_inj]
    omega
  · split
    · simp [← UInt8.toNat_inj]
      omega
    · split <;>
      · simp [← UInt8.toNat_inj]
        omega

/-- A character below 128 is one byte. -/
theorem utf8_ascii {char : Char} (ascii : char.toNat < 128) :
    String.utf8EncodeChar char = [UInt8.ofNat char.toNat] := by
  have small : char.toNat ≤ 127 := by omega
  simp [String.utf8EncodeChar, small]

/-- Without a zero and after an ASCII character, bytes are taken for UTF-8. -/
theorem detectEncoding_utf8 {first : UInt8} {rest : Bytes} (ascii : first < 128)
    (nonzero : ∀ byte ∈ first :: rest, byte ≠ 0) : detectEncoding (first :: rest) = .utf8 := by
  have positive : first ≠ 0 := nonzero first List.mem_cons_self
  have unmarked : ∀ mark : UInt8, 128 ≤ mark → first ≠ mark := by
    rintro mark high rfl
    exact absurd ascii (UInt8.not_lt.mpr high)
  have marks : first ≠ 0xFF ∧ first ≠ 0xFE ∧ first ≠ 0xEF :=
    ⟨unmarked _ (by decide), unmarked _ (by decide), unmarked _ (by decide)⟩
  simp only [detectEncoding, List.take_succ_cons, List.cons.injEq, positive, marks, false_and,
    or_self, if_false]
  split
  case _ one second same =>
    obtain ⟨rfl, rfl⟩ := List.cons.inj same
    have second_nonzero : second ≠ 0 := nonzero second (by simp)
    simp only [positive, second_nonzero, if_false]
  case _ one second third fourth more same =>
    obtain ⟨rfl, rfl⟩ := List.cons.inj same
    have second_nonzero : second ≠ 0 := nonzero second (by simp)
    simp only [positive, second_nonzero, if_false]
  case _ => rfl

/-- The code an encoded value begins with is ASCII. -/
theorem kind_ascii {code : Code} (known : kindOf code ≠ .other) : code.ord < 128 := by
  by_contra high
  have apart : ∀ other : Code, other.ord < 128 → code ≠ other := by
    rintro other small rfl
    exact high small
  have digit : digitCode code = false := by
    cases code with
    | lone offset => rfl
    | scalar char =>
      rw [Code.ord] at high
      have large : ¬ char.toNat ≤ 57 := by omega
      simp [digitCode, Code.digitValue?, large]
  apply known
  rw [kindOf, if_neg (apart _ (by decide)), if_neg (apart _ (by decide)), if_neg (apart _ (by decide)),
    if_neg (apart _ (by decide)), if_neg (apart _ (by decide)), if_neg (apart _ (by decide)), digit,
    decide_eq_false (apart (.scalar '-') (by decide))]
  rfl

/-- Canonical bytes decode to the canonical text. -/
theorem decodeBytes_canonical {interpreter : Interpreter} {value : Value} {text : PyStr} {bytes : Bytes}
    (encoded : encode value = .ok text) (carried : utf8 text = .ok bytes) :
    decodeBytes interpreter bytes = .ok text := by
  rw [utf8] at carried
  split at carried
  case _ chars mapped =>
    obtain rfl := Except.ok.inj carried
    obtain rfl := mapM_char mapped
    have shown := encode_visible encoded
    have nonzero : ∀ byte ∈ chars.flatMap String.utf8EncodeChar, byte ≠ 0 := by
      intro byte listed
      obtain ⟨char, member, part⟩ := List.mem_flatMap.mp listed
      have high := List.all_eq_true.mp shown _ (List.mem_map_of_mem member)
      exact utf8_nonzero (of_decide_eq_true high) byte part
    obtain ⟨code, rest, split, _, known⟩ := encoded_start encoded
    obtain ⟨char, others, rfl, rfl, rfl⟩ := List.map_eq_cons_iff.mp split
    have ascii : char.toNat < 128 := kind_ascii known
    have detected : detectEncoding ((char :: others).flatMap String.utf8EncodeChar) = .utf8 := by
      rw [List.flatMap_cons, utf8_ascii ascii] at nonzero ⊢
      have low : UInt8.ofNat char.toNat < 128 := by
        rw [UInt8.lt_iff_toNat_lt, UInt8.toNat_ofNat']
        exact lt_of_le_of_lt (Nat.mod_le _ _) ascii
      exact detectEncoding_utf8 low nonzero
    rw [decodeBytes, detected]
    simp only [decodeUtf8_chars (char :: others) le_rfl]
  case _ => cases carried

end Decoding

/-- What a canonical text is parsed to. -/
theorem loads_canonical {interpreter : Interpreter} {value back : Value} {text : PyStr} {bytes : Bytes}
    (encoded : encode value = .ok text) (carried : utf8 text = .ok bytes)
    (rescanned : Rescanned interpreter value text back) : loads interpreter (.bytes bytes) = .ok back := by
  obtain ⟨code, rest, split, _, known⟩ := encoded_start encoded
  have kept : skipBlanks text = text := by
    rw [split, skipBlanks_start (kind_start known).1]
  have scanned := rescanned.scanned text.length le_rfl [] (fun _ _ absurdity => by cases absurdity)
  rw [List.append_nil] at scanned
  rw [loads, decodeBytes_canonical encoded carried, Result.ok_bind, decodeText, kept, scanned]
  rfl

/-- Canonical bytes come back as they are exactly when no overlarge float stands
in the value. -/
theorem recanonical_iff {interpreter : Interpreter} {value : Value} {bytes : Bytes}
    (distinct : value.distinct = true)
    (printed : ∀ negative rep, .finite negative rep ∈ value.floats → interpreter.printed rep)
    (canonical : canonicalizeBytes value = .ok bytes) :
    parseAndCanonicalize interpreter (.bytes bytes) = .ok bytes ↔
      ∀ number ∈ value.floats, ¬ Overlarge number := by
  have accepted := canonical_iff.mpr ⟨bytes, canonical⟩
  rw [canonicalizeBytes, Result.bind_ok] at canonical
  obtain ⟨text, encoded, carried⟩ := canonical
  obtain ⟨back, rescanned⟩ := rescanned accepted distinct printed encoded
  rw [parseAndCanonicalize, loads_canonical encoded carried rescanned, Result.ok_bind]
  constructor
  · intro same number held large
    rw [canonicalizeBytes, Result.bind_ok] at same
    obtain ⟨other, written, _⟩ := same
    exact rescanned.refused ⟨number, held, large⟩ other written
  · intro regular
    rw [canonicalizeBytes, canonicalize, rescanned.restored regular, Result.ok_bind, carried]

section Sample

/-- The text of the double 1.5. -/
def oneAndHalf : Decimal := .fixed 1 [] 5 []

/-- An interpreter that reads the doubles 1.5 and -1.5. -/
def sampleInterpreter : Interpreter where
  nearest negative _ := .finite negative oneAndHalf
  printed rep := rep = oneAndHalf
  nearest_printed := by
    rintro negative rep rfl
    rfl
  decode _ _ := .error .valueError

/-- An array of a fraction, an integer and an object. -/
def sampleValue : Value :=
  .list [.float (.finite true oneAndHalf), .int 9007199254740991, .dict [(.str (py "k"), .none)]]

/-- The bytes of a sample document. -/
def sampleBytes : Bytes := "[-1.5,9007199254740991,\x7b\"k\":null\x7d]".toByteArray.data.toList

/-- The sample bytes are the canonical form of the sample value. -/
theorem sample_canonical : canonicalizeBytes sampleValue = .ok sampleBytes := by decide +kernel

/-- The sample is canonical, so parsing and writing it again gives it back exactly when none of
its floats is too large. -/
theorem recanonical_sample : parseAndCanonicalize sampleInterpreter (.bytes sampleBytes) = .ok sampleBytes ↔
    ∀ number ∈ sampleValue.floats, ¬ Overlarge number := by
  refine recanonical_iff (by decide) ?_ sample_canonical
  intro negative rep held
  cases List.mem_singleton.mp held
  rfl

/-- The float 1e16 is written as an integer that the canonicalizer then refuses. -/
theorem overlarge_refused :
    canonicalizeBytes (.float .tenQuadrillion) = .ok "10000000000000000".toByteArray.data.toList ∧
      parseAndCanonicalize sampleInterpreter (.bytes "10000000000000000".toByteArray.data.toList) =
        .error (.canonicalizationError (py "integer 10000000000000000 exceeds IEEE-754 safe range")) := by
  decide +kernel

end Sample

end TaxStamps.Jcs
