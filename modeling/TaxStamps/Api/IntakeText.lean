import TaxStamps.Api.Idempotency
import TaxStamps.Crypto.Canonical

/-!
# What the hash of an intake body tells apart

The JSON text of a validated body always exists, and two bodies have one text
exactly when they are alike: the same kind, the same numbers, and the same UTF-16
code units in every text. Bodies without lone surrogates are alike only when
they are equal; a character outside the basic plane and the two surrogates that
stand for it are alike.
-/

namespace TaxStamps.Api

open Jcs

section Strings

/-- Reads one code unit of a JSON string. -/
def readUnit : PyStr → Option (Nat × PyStr)
  | [] => none
  | first :: rest =>
    if first = quote then none
    else if first = .scalar (Char.ofNat 92) then
      match rest with
      | .scalar 'u' :: a :: b :: c :: d :: tail =>
        some (4096 * hexValue a + 256 * hexValue b + 16 * hexValue c + hexValue d, tail)
      | .scalar 'b' :: tail => some (8, tail)
      | .scalar 'f' :: tail => some (12, tail)
      | .scalar 'n' :: tail => some (10, tail)
      | .scalar 'r' :: tail => some (13, tail)
      | .scalar 't' :: tail => some (9, tail)
      | other :: tail => some (other.ord, tail)
      | [] => none
    else some (first.ord, rest)

/-- A hexadecimal digit is read back as its value. -/
theorem hexValue_hexDigit : ∀ value < 16, hexValue (hexDigit value) = value := by decide

/-- A plain character is not one of the two that end or escape. -/
theorem plain_unit : ∀ unit < 127, 32 ≤ unit ∧ unit ≠ 34 ∧ unit ≠ 92 →
    Code.scalar (Char.ofNat unit) ≠ quote ∧ Code.scalar (Char.ofNat unit) ≠ .scalar (Char.ofNat 92) ∧
      (Code.scalar (Char.ofNat unit)).ord = unit := by decide

/-- A code unit is read back, whatever follows it. -/
theorem readUnit_escape (unit : Nat) (bounded : unit < 65536) (rest : PyStr) :
    readUnit (escapeUnit unit ++ rest) = some (unit, rest) := by
  unfold escapeUnit
  split
  case h_8 _ quoted escaped _ _ _ _ _ =>
    split
    case isTrue plain =>
      obtain ⟨notQuote, notEscape, value⟩ := plain_unit unit (by omega) ⟨plain.1, quoted, escaped⟩
      simp [readUnit, notQuote, notEscape, value]
    case isFalse =>
      have first := hexValue_hexDigit (unit / 4096) (by omega)
      have second := hexValue_hexDigit (unit / 256 % 16) (by omega)
      have third := hexValue_hexDigit (unit / 16 % 16) (by omega)
      have fourth := hexValue_hexDigit (unit % 16) (by omega)
      have read : readUnit (py "\\u" ++ [hexDigit (unit / 4096), hexDigit (unit / 256 % 16),
          hexDigit (unit / 16 % 16), hexDigit (unit % 16)] ++ rest) =
        some (4096 * hexValue (hexDigit (unit / 4096)) + 256 * hexValue (hexDigit (unit / 256 % 16)) +
          16 * hexValue (hexDigit (unit / 16 % 16)) + hexValue (hexDigit (unit % 16)), rest) := rfl
      rw [read, first, second, third, fourth]
      congr 2
      omega
  all_goals rfl

/-- A unit of UTF-16 has 16 bits. -/
theorem units_bounded (text : PyStr) : ∀ unit ∈ utf16 text, unit < 65536 := by
  intro unit member
  obtain ⟨code, _, listed⟩ := List.mem_flatMap.mp member
  cases code with
  | lone offset =>
    have bound := offset.isLt
    have value := List.mem_singleton.mp listed
    omega
  | scalar char =>
    have valid : char.toNat < 0xD800 ∨ (0xDFFF < char.toNat ∧ char.toNat < 0x110000) := char.valid
    rw [utf16Units] at listed
    split at listed
    case isTrue small =>
      obtain rfl := List.mem_singleton.mp listed
      exact small
    case isFalse =>
      rcases List.mem_cons.mp listed with high | rest
      · omega
      · have low := List.mem_singleton.mp rest
        omega

/-- A JSON string ends at its closing quote and tells the code units. -/
theorem jsonString_unique {left right leftTail rightTail : PyStr}
    (same : jsonString left ++ leftTail = jsonString right ++ rightTail) :
    utf16 left = utf16 right ∧ leftTail = rightTail := by
  rw [jsonString, jsonString] at same
  simp only [List.cons_append, List.append_assoc, List.nil_append, List.cons.injEq, true_and] at same
  exact @coded_unique _ _ _ _ (fun unit => unit < 65536) readUnit_escape (fun rest => rfl) _ _
    (units_bounded left) (units_bounded right) _ _ same

/-- Texts of the same units are written alike. -/
theorem jsonString_same {left right : PyStr} (same : utf16 left = utf16 right) :
    jsonString left = jsonString right := by
  rw [utf16, utf16] at same
  rw [jsonString, same, jsonString]

end Strings

section Bodies

/-- The members of a line in the order of their keys. -/
def lineEntries (item : LineItem) : List (String × PyStr) :=
  [("customs_value_kobo", PyStr.decimalInt item.customsValueKobo),
    ("description", jsonString item.description),
    ("hs_code", jsonString item.hsCode),
    ("quantity", PyStr.decimalInt item.quantity),
    ("stamps_required", PyStr.decimalInt item.stampsRequired),
    ("unit", jsonString item.unit)]

/-- The text of an object. -/
def objectText (entries : List (String × PyStr)) : PyStr :=
  py "\x7b" ++ (PyStr.join (py ", ") (entries.map (fun entry => Value.entryText entry.1 entry.2)) ++
    py "\x7d")

/-- The text of a line. -/
def lineText (item : LineItem) : PyStr := objectText (lineEntries item)

/-- The members of a body in the order of their names, as they are written. -/
def bodyEntries : IntakeBody → List (String × PyStr)
  | .declaration body =>
    [("consignee_name", jsonString body.consigneeName),
      ("consignee_tin", jsonString body.consigneeTin),
      ("declaration_ref", jsonString body.declarationRef),
      ("lines", py "[" ++ (PyStr.join (py ", ") (body.lines.map lineText) ++ py "]"))]
  | .assessment body => [("declaration_ref", jsonString body.declarationRef)]

/-- The JSON text of a body. -/
def bodyText (body : IntakeBody) : PyStr := objectText (bodyEntries body)

/-- A number that is not too long is written in decimals. -/
theorem dumps_legible {value : Int} (small : legible value = true) :
    (Value.int value).dumps = .ok (PyStr.decimalInt value) := by
  rw [Value.dumps, if_pos (of_decide_eq_true small)]

/-- A legible line is written as its text. -/
theorem dumps_line {item : LineItem} (small : legibleLine item = true) :
    (lineModelDump item).dumps = .ok (lineText item) := by
  rw [legibleLine, Bool.and_eq_true, Bool.and_eq_true] at small
  obtain ⟨⟨quantity, customs⟩, stamps⟩ := small
  apply Value.dumps_object
  simp only [List.map_cons, List.map_nil, dumps_legible quantity, dumps_legible customs,
    dumps_legible stamps]
  rfl

/-- Every body has its JSON text. -/
theorem dumps_body {body : IntakeBody} (small : body.legible = true) :
    body.modelDump.dumps = .ok (bodyText body) := by
  cases body with
  | assessment body =>
    apply Value.dumps_object
    rfl
  | declaration body =>
    rw [IntakeBody.legible, List.all_eq_true] at small
    have items : Value.dumpsItems (body.lines.map lineModelDump) = .ok (body.lines.map lineText) :=
      @Value.dumpsItems_ok _ lineModelDump lineText _ (fun item member => dumps_line (small item member))
    have lines : (Value.list (body.lines.map lineModelDump)).dumps =
        .ok (py "[" ++ (PyStr.join (py ", ") (body.lines.map lineText) ++ py "]")) := by
      rw [Value.dumps, items]
      rfl
    apply Value.dumps_object
    simp only [List.map_cons, List.map_nil, lines]
    rfl

/-- A number ends before a separator that no number contains, and the text tells it. -/
theorem decimalInt_unique {left right : Int} {separator leftTail rightTail : PyStr}
    (ends : ∃ code rest, separator = code :: rest ∧ numberCode code = false)
    (same : PyStr.decimalInt left ++ (separator ++ leftTail) =
      PyStr.decimalInt right ++ (separator ++ rightTail)) : left = right ∧ leftTail = rightTail := by
  obtain ⟨first, rest, rfl, stops⟩ := ends
  have delimited : ∀ tail, Delimited (first :: rest ++ tail) := by
    intro tail code following split
    obtain ⟨rfl, _⟩ := List.cons.inj split
    exact stops
  obtain ⟨texts, tails⟩ := number_unique (decimalInt_codes left) (decimalInt_codes right)
    (delimited leftTail) (delimited rightTail) same
  have value := (decimalInt_number left).value
  rw [texts, (decimalInt_number right).value] at value
  exact ⟨(Int.cast_inj.mp value).symm, List.append_cancel_left tails⟩

/-- What separates elements is no character of a number. -/
theorem comma_ends : ∃ code rest, py ", " = code :: rest ∧ numberCode code = false :=
  ⟨.scalar ',', [.scalar ' '], by decide, by decide⟩

/-- Lines with the same numbers and the same code units. -/
structure LineAlike (left right : LineItem) : Prop where
  customsValueKobo : left.customsValueKobo = right.customsValueKobo
  description : utf16 left.description = utf16 right.description
  hsCode : utf16 left.hsCode = utf16 right.hsCode
  quantity : left.quantity = right.quantity
  stampsRequired : left.stampsRequired = right.stampsRequired
  unit : utf16 left.unit = utf16 right.unit

/-- Bodies of one kind with the same numbers and the same code units. -/
inductive Alike : IntakeBody → IntakeBody → Prop
  | declaration {left right : DeclarationIn}
      (consigneeName : utf16 left.consigneeName = utf16 right.consigneeName)
      (consigneeTin : utf16 left.consigneeTin = utf16 right.consigneeTin)
      (declarationRef : utf16 left.declarationRef = utf16 right.declarationRef)
      (lines : List.Forall₂ LineAlike left.lines right.lines) :
      Alike (.declaration left) (.declaration right)
  | assessment {left right : AssessmentCreateIn}
      (declarationRef : utf16 left.declarationRef = utf16 right.declarationRef) :
      Alike (.assessment left) (.assessment right)

/-- The text of a line ends with its brace and tells the line. -/
theorem lineText_unique {left right : LineItem} {leftTail rightTail : PyStr}
    (same : lineText left ++ leftTail = lineText right ++ rightTail) :
    LineAlike left right ∧ leftTail = rightTail := by
  simp only [lineText, objectText, lineEntries, Value.entryText, List.map_cons, List.map_nil, PyStr.join,
    List.append_assoc, List.append_cancel_left_eq] at same
  obtain ⟨customs, same⟩ := decimalInt_unique comma_ends same
  simp only [List.append_cancel_left_eq] at same
  obtain ⟨description, same⟩ := jsonString_unique same
  simp only [List.append_cancel_left_eq] at same
  obtain ⟨hsCode, same⟩ := jsonString_unique same
  simp only [List.append_cancel_left_eq] at same
  obtain ⟨quantity, same⟩ := decimalInt_unique comma_ends same
  simp only [List.append_cancel_left_eq] at same
  obtain ⟨stamps, same⟩ := decimalInt_unique comma_ends same
  simp only [List.append_cancel_left_eq] at same
  obtain ⟨unit, same⟩ := jsonString_unique same
  exact ⟨⟨customs, description, hsCode, quantity, stamps, unit⟩, List.append_cancel_left same⟩

/-- Lines that are alike are written alike. -/
theorem lineText_same {left right : LineItem} (alike : LineAlike left right) :
    lineText left = lineText right := by
  rw [lineText, lineText, lineEntries, lineEntries, alike.customsValueKobo, alike.quantity,
    alike.stampsRequired, jsonString_same alike.description, jsonString_same alike.hsCode,
    jsonString_same alike.unit]

/-- Lines after the first end with the closing bracket and are told one by one. -/
theorem following_unique {left right : List LineItem} {leftTail rightTail : PyStr}
    (same : left.flatMap (fun item => py ", " ++ lineText item) ++ (py "]" ++ leftTail) =
      right.flatMap (fun item => py ", " ++ lineText item) ++ (py "]" ++ rightTail)) :
    List.Forall₂ LineAlike left right ∧ leftTail = rightTail := by
  have apart : ∀ (rest tail : PyStr), py "]" ++ tail ≠ py ", " ++ rest := by
    intro rest tail equal
    exact absurd (List.cons.inj equal).1 (by decide)
  induction left generalizing right with
  | nil =>
    cases right with
    | nil => exact ⟨.nil, List.append_cancel_left same⟩
    | cons second others =>
      rw [List.flatMap_nil, List.nil_append, List.flatMap_cons, List.append_assoc, List.append_assoc] at same
      exact absurd same (apart _ _)
  | cons first rest inductionHypothesis =>
    cases right with
    | nil =>
      rw [List.flatMap_nil, List.nil_append, List.flatMap_cons, List.append_assoc, List.append_assoc] at same
      exact absurd same.symm (apart _ _)
    | cons second others =>
      simp only [List.flatMap_cons, List.append_assoc, List.append_cancel_left_eq] at same
      obtain ⟨alike, tails⟩ := lineText_unique same
      obtain ⟨rest, closed⟩ := inductionHypothesis tails
      exact ⟨.cons alike rest, closed⟩

/-- The text of the lines ends with the closing bracket and tells the lines. -/
theorem linesText_unique {left right : List LineItem} {leftTail rightTail : PyStr}
    (same : PyStr.join (py ", ") (left.map lineText) ++ (py "]" ++ leftTail) =
      PyStr.join (py ", ") (right.map lineText) ++ (py "]" ++ rightTail)) :
    List.Forall₂ LineAlike left right ∧ leftTail = rightTail := by
  have opens : ∀ (item : LineItem) (rest tail : PyStr), py "]" ++ tail ≠ lineText item ++ rest := by
    intro item rest tail equal
    rw [lineText, objectText, List.append_assoc] at equal
    exact absurd (List.cons.inj equal).1 (by decide)
  cases left with
  | nil =>
    cases right with
    | nil => exact ⟨.nil, List.append_cancel_left same⟩
    | cons second others =>
      rw [List.map_nil, List.map_cons, join_cons, List.append_assoc] at same
      exact absurd same (opens _ _ _)
  | cons first rest =>
    cases right with
    | nil =>
      rw [List.map_nil, List.map_cons, join_cons, List.append_assoc] at same
      exact absurd same.symm (opens _ _ _)
    | cons second others =>
      rw [List.map_cons, List.map_cons, join_cons, join_cons, List.append_assoc, List.append_assoc,
        List.flatMap_map, List.flatMap_map] at same
      obtain ⟨alike, tails⟩ := lineText_unique same
      obtain ⟨rest, closed⟩ := following_unique tails
      exact ⟨.cons alike rest, closed⟩

/-- Lists of alike lines are written alike. -/
theorem linesText_same {left right : List LineItem} (alike : List.Forall₂ LineAlike left right) :
    left.map lineText = right.map lineText := by
  induction alike with
  | nil => rfl
  | cons same _ inductionHypothesis =>
    rw [List.map_cons, List.map_cons, lineText_same same, inductionHypothesis]

/-- The texts of the two kinds differ in their first key. -/
theorem kinds_apart (left : DeclarationIn) (right : AssessmentCreateIn) :
    bodyText (.declaration left) ≠ bodyText (.assessment right) := by
  intro same
  simp only [bodyText, objectText, bodyEntries, Value.entryText, List.map_cons, List.map_nil,
    PyStr.join, List.append_assoc, List.append_cancel_left_eq] at same
  exact absurd (jsonString_unique same).1 (by decide)

/-- The JSON text of a body tells the body up to likeness, and no more. -/
theorem bodyText_alike {left right : IntakeBody} : bodyText left = bodyText right ↔ Alike left right := by
  constructor
  · intro same
    cases left with
    | declaration left =>
      cases right with
      | declaration right =>
        simp only [bodyText, objectText, bodyEntries, Value.entryText, List.map_cons, List.map_nil,
          PyStr.join, List.append_assoc, List.append_cancel_left_eq] at same
        obtain ⟨name, same⟩ := jsonString_unique same
        simp only [List.append_cancel_left_eq] at same
        obtain ⟨tin, same⟩ := jsonString_unique same
        simp only [List.append_cancel_left_eq] at same
        obtain ⟨reference, same⟩ := jsonString_unique same
        simp only [List.append_cancel_left_eq] at same
        exact .declaration name tin reference (linesText_unique same).1
      | assessment right => exact absurd same (kinds_apart left right)
    | assessment left =>
      cases right with
      | declaration right => exact absurd same.symm (kinds_apart right left)
      | assessment right =>
        simp only [bodyText, objectText, bodyEntries, Value.entryText, List.map_cons, List.map_nil,
          PyStr.join, List.append_assoc, List.append_cancel_left_eq] at same
        exact .assessment (jsonString_unique same).1
  · intro alike
    cases alike with
    | declaration name tin reference lines =>
      rw [bodyText, bodyText, bodyEntries, bodyEntries, jsonString_same name, jsonString_same tin,
        jsonString_same reference, linesText_same lines]
    | assessment reference => rw [bodyText, bodyText, bodyEntries, bodyEntries, jsonString_same reference]

end Bodies

section Hash

/-- A literal can be encoded. -/
theorem py_encodable (text : String) : (py text).all encodable = true := by
  rw [py, List.all_map, List.all_eq_true]
  exact fun _ _ => rfl

/-- An escaped unit can be encoded. -/
theorem escapeUnit_encodable (unit : Nat) (bounded : unit < 65536) :
    (escapeUnit unit).all encodable = true := by
  unfold escapeUnit
  split <;> first | rfl | skip
  split
  case isTrue => rfl
  case isFalse =>
    rw [List.all_append, py_encodable, List.all_cons, List.all_cons, List.all_cons, List.all_cons,
      hexDigit_encodable _ (by omega), hexDigit_encodable _ (by omega), hexDigit_encodable _ (by omega),
      hexDigit_encodable _ (by omega)]
    rfl

/-- A written string can be encoded, whatever the text. -/
theorem jsonString_encodable (text : PyStr) : (jsonString text).all encodable = true := by
  have each : ((text.flatMap utf16Units).flatMap escapeUnit).all encodable = true := by
    rw [List.all_flatMap, List.all_eq_true]
    exact fun unit member => escapeUnit_encodable unit (units_bounded text unit member)
  rw [jsonString, List.all_cons, List.all_append, each]
  rfl

/-- An object can be encoded if its written values can. -/
theorem objectText_encodable {entries : List (String × PyStr)}
    (each : ∀ entry ∈ entries, entry.2.all encodable = true) : (objectText entries).all encodable = true := by
  rw [objectText, List.all_append, List.all_append, py_encodable, py_encodable, Bool.true_and, Bool.and_true]
  apply join_all (py_encodable _)
  intro text member
  obtain ⟨entry, listed, rfl⟩ := List.mem_map.mp member
  rw [Value.entryText, List.all_append, List.all_append, jsonString_encodable, py_encodable,
    each entry listed]
  rfl

/-- A written line can be encoded. -/
theorem lineText_encodable (item : LineItem) : (lineText item).all encodable = true := by
  apply objectText_encodable
  intro entry member
  simp only [lineEntries, List.mem_cons, List.not_mem_nil, or_false] at member
  rcases member with rfl | rfl | rfl | rfl | rfl | rfl
  all_goals first
    | exact jsonString_encodable _
    | exact number_encodable (decimalInt_codes _)

/-- A written body can be encoded. -/
theorem bodyText_encodable (body : IntakeBody) : (bodyText body).all encodable = true := by
  apply objectText_encodable
  intro entry member
  cases body with
  | assessment body =>
    obtain rfl := List.mem_singleton.mp member
    exact jsonString_encodable _
  | declaration body =>
    simp only [bodyEntries, List.mem_cons, List.not_mem_nil, or_false] at member
    rcases member with rfl | rfl | rfl | rfl
    · exact jsonString_encodable _
    · exact jsonString_encodable _
    · exact jsonString_encodable _
    · rw [List.all_append, List.all_append, py_encodable, py_encodable, Bool.true_and, Bool.and_true]
      apply join_all (py_encodable _)
      intro text listed
      obtain ⟨item, _, rfl⟩ := List.mem_map.mp listed
      exact lineText_encodable item

/-- The bytes of the JSON text of a body. -/
def bodyBytes (body : IntakeBody) : Bytes := (utf8 (bodyText body)).toOption.getD []

/-- The bytes of a body are those of its text. -/
theorem bodyBytes_ok (body : IntakeBody) : utf8 (bodyText body) = .ok (bodyBytes body) := by
  obtain ⟨chars, mapped⟩ := mapM_encodable (bodyText_encodable body)
  rw [bodyBytes, utf8, mapped]
  rfl

/-- Two bodies have one text exactly when they are alike. -/
theorem bodyBytes_alike {left right : IntakeBody} : bodyBytes left = bodyBytes right ↔ Alike left right := by
  rw [← bodyText_alike]
  constructor
  · intro same
    exact utf8_injective (bodyBytes_ok left) (same ▸ bodyBytes_ok right)
  · intro same
    rw [bodyBytes, same, bodyBytes]

/-- The hash of a body. -/
def bodyHash (env : Env) (body : IntakeBody) : PyStr := Merkle.hex (env.sha256 (bodyBytes body))

/-- The request hash of a legible body is that of its bytes. -/
theorem requestHash_body (env : Env) {body : IntakeBody} (small : body.legible = true) :
    requestHash env body.modelDump = .ok (bodyHash env body) := by
  rw [requestHash, dumps_body small, Result.ok_bind, bodyBytes_ok, Result.ok_bind, bodyHash]

/-- A record that is replayed is one of the request's key and principal, made for a body of
the same hash. -/
theorem replay_found {env : Env} {request : IntakeRequest} {records : List IdempotencyRecord}
    {record : IdempotencyRecord}
    (replayed : idempotentReplay env request.idemKey request.subject request.body.modelDump records =
      .ok (some record)) :
    ∃ key, presented request.idemKey = some key ∧ record ∈ records ∧
      record.isFor key request.subject = true ∧ record.requestHash = bodyHash env request.body := by
  rw [idempotentReplay] at replayed
  split at replayed
  case _ => cases replayed
  case _ key stated =>
    split at replayed
    case _ => cases replayed
    case _ kept located =>
      obtain ⟨bodyHash, hashed, replayed⟩ := Result.bind_ok.mp replayed
      obtain ⟨_, same, replayed⟩ := Result.bind_ok.mp replayed
      cases replayed
      rw [requestHash_body env request.body_legible] at hashed
      cases hashed
      rw [Result.require_ok, decide_eq_true_eq] at same
      exact ⟨key, stated, List.mem_of_find?_eq_some located, List.find?_some located, same⟩

/-- No record is replayed exactly when there is none of the key and principal. -/
theorem replay_none_iff {env : Env} {key principalSub : PyStr} {requestBody : Value}
    {records : List IdempotencyRecord} :
    idempotentReplay env key principalSub requestBody records = .ok none ↔
      ∀ stated, presented key = some stated → ∀ record ∈ records, record.isFor stated principalSub = false := by
  unfold idempotentReplay
  split
  case _ keyless => simp [keyless]
  case _ stated keyed =>
    split
    case _ absent =>
      rw [List.find?_eq_none] at absent
      simpa [keyed] using absent
    case _ record located =>
      have listed := List.mem_of_find?_eq_some located
      have same := List.find?_some located
      constructor
      · intro passes
        obtain ⟨_, _, passes⟩ := Result.bind_ok.mp passes
        obtain ⟨_, _, passes⟩ := Result.bind_ok.mp passes
        cases passes
      · intro unrecorded
        rw [unrecorded stated keyed record listed] at same
        cases same

/-- What is stored is a record of the request and of its response, if it presents a key. -/
theorem store_ok {env : Env} {request : IntakeRequest} {response : Value}
    {records later : List IdempotencyRecord}
    (stored : storeIdempotency env request.idemKey request.subject request.body.modelDump 201 response
      records = .ok later) :
    (presented request.idemKey = none ∧ later = records) ∨
      ∃ key kept, presented request.idemKey = some key ∧
        storedResponse env key request.subject (bodyHash env request.body) 201 response = .ok kept ∧
        records.any (IdempotencyRecord.isFor key request.subject) = false ∧
        later = records ++ [⟨key, request.subject, bodyHash env request.body, 201, kept⟩] := by
  rw [storeIdempotency] at stored
  split at stored
  case _ keyless =>
    cases stored
    exact Or.inl ⟨keyless, rfl⟩
  case _ key stated =>
    obtain ⟨hash, hashed, stored⟩ := Result.bind_ok.mp stored
    obtain ⟨kept, column, stored⟩ := Result.bind_ok.mp stored
    obtain ⟨_, primary, stored⟩ := Result.bind_ok.mp stored
    cases stored
    rw [requestHash_body env request.body_legible] at hashed
    cases hashed
    rw [Db.constrain, Result.require_ok, Bool.not_eq_true'] at primary
    exact Or.inr ⟨key, kept, stated, column, primary, rfl⟩

/-- SHA-256 tells the texts of two bodies apart, if they differ. -/
def NoCollision (env : Env) (left right : IntakeBody) : Prop :=
  env.sha256 (bodyBytes left) = env.sha256 (bodyBytes right) → bodyBytes left = bodyBytes right

/-- Bodies have one hash exactly when they are alike, unless SHA-256 collides on them. -/
theorem bodyHash_alike {env : Env} {left right : IntakeBody} (apart : NoCollision env left right) :
    bodyHash env left = bodyHash env right ↔ Alike left right := by
  rw [← bodyBytes_alike]
  constructor
  · exact fun same => apart (Merkle.hex_injective same)
  · intro same
    rw [bodyHash, same, bodyHash]

end Hash

section Alike

/-- Texts without lone surrogates are determined by their units. -/
theorem utf16_eq {left right : PyStr} (leftEncodes : left.all encodable = true)
    (rightEncodes : right.all encodable = true) (same : utf16 left = utf16 right) : left = right :=
  utf16Units_injective leftEncodes rightEncodes same

/-- A text with a bound on its length holds no lone surrogate. -/
theorem sized_encodable {least most : Nat} {text : PyStr} (sized : PyStr.sized least most text = true) :
    text.all encodable = true := by
  rw [PyStr.sized, Bool.and_eq_true] at sized
  exact scalar_encodable sized.2

/-- No text of the line holds a lone surrogate. -/
def encodableLine (item : LineItem) : Bool :=
  item.hsCode.all encodable && item.description.all encodable && item.unit.all encodable

/-- No text of the body holds a lone surrogate. -/
def IntakeBody.encodable : IntakeBody → Bool
  | .declaration body => body.declarationRef.all Jcs.encodable && body.consigneeTin.all Jcs.encodable &&
      body.consigneeName.all Jcs.encodable && body.lines.all encodableLine
  | .assessment body => body.declarationRef.all Jcs.encodable

/-- Alike lines without lone surrogates are equal. -/
theorem LineAlike.eq {left right : LineItem} (alike : LineAlike left right)
    (leftEncodes : encodableLine left = true) (rightEncodes : encodableLine right = true) :
    left = right := by
  rw [encodableLine, Bool.and_eq_true, Bool.and_eq_true] at leftEncodes rightEncodes
  obtain ⟨⟨leftCode, leftDescription⟩, leftUnit⟩ := leftEncodes
  obtain ⟨⟨rightCode, rightDescription⟩, rightUnit⟩ := rightEncodes
  have hsCode := utf16_eq leftCode rightCode alike.hsCode
  have description := utf16_eq leftDescription rightDescription alike.description
  have unit := utf16_eq leftUnit rightUnit alike.unit
  obtain ⟨customs, _, _, quantity, stamps, _⟩ := alike
  cases left
  cases right
  simp_all only

/-- Lists of alike lines without lone surrogates are equal. -/
theorem linesAlike_eq {left right : List LineItem} (alike : List.Forall₂ LineAlike left right)
    (leftEncodes : left.all encodableLine = true) (rightEncodes : right.all encodableLine = true) :
    left = right := by
  induction alike with
  | nil => rfl
  | cons same _ inductionHypothesis =>
    rw [List.all_cons, Bool.and_eq_true] at leftEncodes rightEncodes
    rw [same.eq leftEncodes.1 rightEncodes.1, inductionHypothesis leftEncodes.2 rightEncodes.2]

/-- Bodies without lone surrogates are alike only when they are equal. -/
theorem Alike.eq {left right : IntakeBody} (alike : Alike left right)
    (leftEncodes : left.encodable = true) (rightEncodes : right.encodable = true) : left = right := by
  cases alike with
  | @assessment left right reference =>
    have same := utf16_eq leftEncodes rightEncodes reference
    cases left
    cases right
    simp_all only
  | @declaration left right name tin reference lines =>
    simp only [IntakeBody.encodable, Bool.and_eq_true] at leftEncodes rightEncodes
    obtain ⟨⟨⟨leftReference, leftTin⟩, leftName⟩, leftLines⟩ := leftEncodes
    obtain ⟨⟨⟨rightReference, rightTin⟩, rightName⟩, rightLines⟩ := rightEncodes
    have references := utf16_eq leftReference rightReference reference
    have tins := utf16_eq leftTin rightTin tin
    have names := utf16_eq leftName rightName name
    have items := linesAlike_eq lines leftLines rightLines
    cases left
    cases right
    simp_all only

/-- A body is like itself. -/
theorem Alike.refl (body : IntakeBody) : Alike body body := bodyText_alike.mp rfl

end Alike

end TaxStamps.Api
