import TaxStamps.Api.Sample
import TaxStamps.Api.Validation
import TaxStamps.Effects.Flow
import TaxStamps.Jsonb

/-!
# The two declaration intakes

One declaration reaches the service as a customs event or as the body of a
request. The consumer converts the numbers of a line with `int` and leaves the
rest to the columns; the route validates the line with its schema first. The
intakes therefore part on exactly the lines that the columns take and the schema
does not: a number with a fraction, another unit, a one-character HS code.

Everything beside the lines is taken to be in order on both sides.
-/

namespace TaxStamps.Intakes

open Api Consumer

section Lines

/-- A line item as a client states it. -/
structure RawLine where
  hsCode : PyStr
  description : Option PyStr
  quantity : Number
  unit : PyStr
  customsValueKobo : Number
  stampsRequired : Number

/-- The field names of a line item. -/
structure LineNames where
  hsCode : String
  description : String
  quantity : String
  unit : String
  customsValueKobo : String
  stampsRequired : String

/-- The names that the consumer reads. -/
def eventNames : LineNames :=
  ⟨"hsCode", "description", "quantity", "unit", "customsValueKobo", "stampsRequired"⟩

/-- The names of `DeclarationLineIn`. -/
def bodyNames : LineNames :=
  ⟨"hs_code", "description", "quantity", "unit", "customs_value_kobo", "stamps_required"⟩

/-- An object states the line item under the names. -/
structure LineStated (names : LineNames) (line : RawLine) (members : List (Key × Value)) : Prop where
  hsCode : Value.lookup (key names.hsCode) members = some (.str line.hsCode)
  description : Value.lookup (key names.description) members = line.description.map .str
  quantity : Value.lookup (key names.quantity) members = some line.quantity.value
  unit : Value.lookup (key names.unit) members = some (.str line.unit)
  customsValueKobo : Value.lookup (key names.customsValueKobo) members = some line.customsValueKobo.value
  stampsRequired : Value.lookup (key names.stampsRequired) members = some line.stampsRequired.value

/-- An entry of `lineItems`. -/
def EventLine (line : RawLine) (entry : Value) : Prop :=
  ∃ members, entry = .dict members ∧ LineStated eventNames line members

/-- An entry of `lines`, which has no field beside. -/
def BodyLine (line : RawLine) (entry : Value) : Prop :=
  ∃ members, membersIn lineFields entry = some members ∧ LineStated bodyNames line members

/-- `int` of a number; the fraction is dropped. -/
def truncated? : Number → Option Int
  | .integer value => some value
  | .float (.finite negative rep) =>
    some (if negative then -(rep.integerPart : Int) else rep.integerPart)
  | .float _ => none

/-- The line item with its numbers truncated. -/
def RawLine.truncated? (line : RawLine) : Option LineItem := do
  let quantity ← Intakes.truncated? line.quantity
  let customsValueKobo ← Intakes.truncated? line.customsValueKobo
  let stampsRequired ← Intakes.truncated? line.stampsRequired
  some
    { hsCode := line.hsCode
      description := line.description.getD []
      quantity := quantity
      unit := line.unit
      customsValueKobo := customsValueKobo
      stampsRequired := stampsRequired }

/-- A count column takes the number without its fraction. -/
def Counted (number : Number) : Prop :=
  ∃ count, truncated? number = some count ∧ 0 ≤ count ∧ count ≤ 9223372036854775807

/-- The columns take the line. -/
structure RawLine.Storable (line : RawLine) : Prop where
  hsCode : PyStr.fits 16 line.hsCode = true
  description : textColumn (line.description.getD []) = true
  unit : PyStr.fits 16 line.unit = true
  quantity : Counted line.quantity
  customsValueKobo : Counted line.customsValueKobo
  stampsRequired : Counted line.stampsRequired

/-- What the schema asks of a line beyond the columns. -/
structure RawLine.Strict (line : RawLine) : Prop where
  hsCode : 2 ≤ line.hsCode.length
  unit : line.unit ∈ [py "STICK", py "LITRE", py "UNIT"]
  quantity : line.quantity.whole?.isSome
  customsValueKobo : line.customsValueKobo.whole?.isSome
  stampsRequired : line.stampsRequired.whole?.isSome

/-- A number without fractional part is truncated to itself. -/
theorem whole_truncated {number : Number} {whole : Int} (integral : number.whole? = some whole) :
    truncated? number = some whole := by
  cases number with
  | integer value => exact integral
  | float value =>
    cases value with
    | finite negative rep =>
      rw [Number.whole?, PyFloat.whole?] at integral
      split at integral
      · exact integral
      · cases integral
    | _ => cases integral

/-- `int()` of a number is its truncation. -/
theorem intOf_number {tables : Unicode} {number : Number} {count : Int} :
    intOf tables number.value = .ok count ↔ truncated? number = some count := by
  cases number with
  | integer value =>
    constructor
    · rintro ⟨⟩
      rfl
    · rintro ⟨⟩
      rfl
  | float value =>
    cases value with
    | finite negative rep => simp [Number.value, intOf, truncated?]
    | _ => simp [Number.value, intOf, truncated?, Verify.intOf]

variable {line : RawLine} {members : List (Key × Value)} {item : LineItem}

/-- A line is truncated number by number. -/
theorem truncated_item : line.truncated? = some item ↔
    ∃ quantity customs stamps, truncated? line.quantity = some quantity ∧
      truncated? line.customsValueKobo = some customs ∧ truncated? line.stampsRequired = some stamps ∧
      item = ⟨line.hsCode, line.description.getD [], quantity, line.unit, customs, stamps⟩ := by
  simp only [RawLine.truncated?, Option.bind_eq_bind, Option.bind_eq_some_iff, Option.some.injEq,
    eq_comm (b := item)]
  tauto

/-- The consumer reads a line as its truncation. -/
theorem readLine_iff {tables : Unicode} (stated : LineStated eventNames line members) :
    readLine tables (.dict members) = .ok item ↔ line.truncated? = some item := by
  have hsCode : Value.lookup (key "hsCode") members = _ := stated.hsCode
  have description : Value.lookup (key "description") members = _ := stated.description
  have quantity : Value.lookup (key "quantity") members = _ := stated.quantity
  have unit : Value.lookup (key "unit") members = _ := stated.unit
  have customs : Value.lookup (key "customsValueKobo") members = _ := stated.customsValueKobo
  have stamps : Value.lookup (key "stampsRequired") members = _ := stated.stampsRequired
  have text : ((line.description.map Value.str).getD (.str [])).toStr tables =
      line.description.getD [] := by
    cases line.description <;> rfl
  have texts : ∀ value, (Value.str value).toStr tables = value := fun _ => rfl
  rw [truncated_item]
  simp only [readLine, subscript, getOr, hsCode, description, quantity, unit, customs, stamps, text,
    texts, Option.getD_some, Result.ok_bind, Result.bind_ok, intOf_number, Except.ok.injEq,
    eq_comm (b := item)]
  tauto

/-- The line items of the lines that can be truncated. -/
def truncatedLines (lines : List RawLine) : List LineItem := lines.filterMap RawLine.truncated?

/-- A readable line is kept. -/
theorem truncatedLines_cons (kept : line.truncated? = some item) (rest : List RawLine) :
    truncatedLines (line :: rest) = item :: truncatedLines rest := List.filterMap_cons_some kept

/-- The consumer reads every line or raises. -/
theorem readLines_iff {tables : Unicode} {lines : List RawLine} {rows : List Value}
    (stated : List.Forall₂ EventLine lines rows) {items : List LineItem} :
    readLines tables rows = .ok items ↔
      (∀ line ∈ lines, line.truncated?.isSome) ∧ items = truncatedLines lines := by
  induction stated generalizing items with
  | nil =>
    constructor
    · intro read
      cases read
      exact ⟨by simp, rfl⟩
    · rintro ⟨_, rfl⟩
      rfl
  | @cons line entry rest others first _ inductionHypothesis =>
    obtain ⟨members, rfl, first⟩ := first
    rw [readLines, Result.bind_ok]
    constructor
    · rintro ⟨item, read, following⟩
      obtain ⟨later, readOthers, following⟩ := Result.bind_ok.mp following
      cases following
      obtain ⟨each, rfl⟩ := inductionHypothesis.mp readOthers
      have kept := (readLine_iff first).mp read
      exact ⟨List.forall_mem_cons.mpr ⟨by rw [kept]; rfl, each⟩, (truncatedLines_cons kept rest).symm⟩
    · rintro ⟨each, rfl⟩
      obtain ⟨kept, each⟩ := List.forall_mem_cons.mp each
      obtain ⟨item, kept⟩ := Option.isSome_iff_exists.mp kept
      refine ⟨item, (readLine_iff first).mpr kept, ?_⟩
      rw [inductionHypothesis.mpr ⟨each, rfl⟩, truncatedLines_cons kept]
      rfl

/-- Readable lines leave at least one item. -/
theorem truncatedLines_present {lines : List RawLine} (present : lines ≠ [])
    (readable : ∀ line ∈ lines, line.truncated?.isSome) : truncatedLines lines ≠ [] := by
  cases lines with
  | nil => exact absurd rfl present
  | cons line rest =>
    obtain ⟨item, kept⟩ := Option.isSome_iff_exists.mp (readable line List.mem_cons_self)
    rw [truncatedLines_cons kept]
    exact List.cons_ne_nil _ _

/-- The columns of a line item. -/
def ItemStorable (item : LineItem) : Prop :=
  (Counted (.integer item.quantity) ∧ Counted (.integer item.customsValueKobo) ∧
    Counted (.integer item.stampsRequired)) ∧
  PyStr.fits 16 item.hsCode = true ∧ textColumn item.description = true ∧ PyStr.fits 16 item.unit = true

/-- An integer is storable as a count when it is natural and fits the column. -/
theorem counted_integer {count : Int} :
    Counted (.integer count) ↔ bigIntegerColumn count = true ∧ 0 ≤ count := by
  simp only [Counted, truncated?, Option.some.injEq, bigIntegerColumn, decide_eq_true_eq]
  constructor
  · rintro ⟨_, rfl, natural, bounded⟩
    exact ⟨⟨by omega, bounded⟩, natural⟩
  · rintro ⟨⟨_, bounded⟩, natural⟩
    exact ⟨count, rfl, natural, bounded⟩

/-- The table takes a line exactly when the item is storable. -/
theorem insertDeclarationLine_iff {db after : Db} {declarationId : Nat} :
    db.insertDeclarationLine (lineRow declarationId item) = .ok after ↔ ItemStorable item ∧
      after = { db with declarationLines := db.declarationLines ++ [lineRow declarationId item] } := by
  rw [Db.insertDeclarationLine, Db.constrained]
  simp only [Bool.and_eq_true, decide_eq_true_eq, ItemStorable, counted_integer]
  simp only [lineRow]
  tauto

/-- The lines of a declaration are added together or not at all. -/
theorem addLines_iff {db after : Db} {declarationId : Nat} {items : List LineItem} :
    addLines declarationId items db = .ok after ↔ (∀ item ∈ items, ItemStorable item) ∧
      after = { db with declarationLines := db.declarationLines ++ items.map (lineRow declarationId) } := by
  induction items generalizing db with
  | nil => simp [addLines, eq_comm]
  | cons item rest inductionHypothesis =>
    rw [addLines, Result.bind_ok]
    constructor
    · rintro ⟨middle, inserted, added⟩
      obtain ⟨first, rfl⟩ := insertDeclarationLine_iff.mp inserted
      obtain ⟨others, rfl⟩ := inductionHypothesis.mp added
      exact ⟨List.forall_mem_cons.mpr ⟨first, others⟩, by simp⟩
    · rintro ⟨each, rfl⟩
      obtain ⟨first, others⟩ := List.forall_mem_cons.mp each
      refine ⟨_, insertDeclarationLine_iff.mpr ⟨first, rfl⟩, inductionHypothesis.mpr ⟨others, ?_⟩⟩
      simp

/-- The columns take a line when they take its truncation. -/
theorem storable_iff : line.Storable ↔ ∃ item, line.truncated? = some item ∧ ItemStorable item := by
  have counted : ∀ {number count}, truncated? number = some count →
      (Counted number ↔ Counted (.integer count)) := by
    intro number count kept
    rw [Counted, Counted, kept]
    rfl
  constructor
  · intro storable
    obtain ⟨quantity, quantityKept, _⟩ := storable.quantity
    obtain ⟨customs, customsKept, _⟩ := storable.customsValueKobo
    obtain ⟨stamps, stampsKept, _⟩ := storable.stampsRequired
    refine ⟨_, truncated_item.mpr ⟨_, _, _, quantityKept, customsKept, stampsKept, rfl⟩, ?_⟩
    exact ⟨⟨(counted quantityKept).mp storable.quantity, (counted customsKept).mp storable.customsValueKobo,
      (counted stampsKept).mp storable.stampsRequired⟩, storable.hsCode, storable.description,
      storable.unit⟩
  · rintro ⟨item, kept, ⟨quantity, customs, stamps⟩, hsCode, description, unit⟩
    obtain ⟨_, _, _, quantityKept, customsKept, stampsKept, rfl⟩ := truncated_item.mp kept
    exact
      { hsCode := hsCode
        description := description
        unit := unit
        quantity := (counted quantityKept).mpr quantity
        customsValueKobo := (counted customsKept).mpr customs
        stampsRequired := (counted stampsKept).mpr stamps }

/-- All lines are storable exactly when all are readable and their items are storable. -/
theorem storables_iff {lines : List RawLine} :
    (∀ line ∈ lines, line.Storable) ↔
      (∀ line ∈ lines, line.truncated?.isSome) ∧ ∀ item ∈ truncatedLines lines, ItemStorable item := by
  constructor
  · intro each
    refine ⟨fun line listed => ?_, fun item listed => ?_⟩
    · obtain ⟨item, kept, _⟩ := storable_iff.mp (each line listed)
      rw [kept]
      rfl
    · obtain ⟨line, present, kept⟩ := List.mem_filterMap.mp listed
      obtain ⟨other, same, storable⟩ := storable_iff.mp (each line present)
      obtain rfl := Option.some.inj (kept.symm.trans same)
      exact storable
  · rintro ⟨readable, each⟩ line listed
    obtain ⟨item, kept⟩ := Option.isSome_iff_exists.mp (readable line listed)
    exact storable_iff.mpr ⟨item, kept, each item (List.mem_filterMap.mpr ⟨line, listed, kept⟩)⟩

end Lines

section Validation

variable {pydantic : Pydantic} {line : RawLine} {members : List (Key × Value)} {item : LineItem}
  {entry : Value}

/-- A description that pydantic reads is the one that was stated. -/
theorem described {description : Option PyStr} {read : PyStr}
    (taken : defaulted pydantic.text [] (description.map .str) = some read) :
    read = description.getD [] := by
  cases description with
  | none => exact (Option.some.inj taken).symm
  | some value => exact pydantic.text_keeps value read taken

/-- The schema takes a description that a column stores, or none. -/
theorem described_accepts {description : Option PyStr} (storable : textColumn (description.getD []) = true) :
    defaulted pydantic.text [] (description.map .str) = some (description.getD []) := by
  cases description with
  | none => rfl
  | some value => exact pydantic.text_accepts value storable

/-- A validated line is its truncation, accepted and strict. -/
theorem validateLine_ok (stated : BodyLine line entry)
    (validated : validateLine pydantic entry = some item) :
    line.truncated? = some item ∧ item.accepted = true ∧ line.Strict := by
  obtain ⟨members, only, stated⟩ := stated
  have hsCode : Value.lookup (key "hs_code") members = _ := stated.hsCode
  have description : Value.lookup (key "description") members = _ := stated.description
  have quantity : Value.lookup (key "quantity") members = _ := stated.quantity
  have unit : Value.lookup (key "unit") members = _ := stated.unit
  have customs : Value.lookup (key "customs_value_kobo") members = _ := stated.customsValueKobo
  have stamps : Value.lookup (key "stamps_required") members = _ := stated.stampsRequired
  simp only [validateLine, only, hsCode, description, quantity, unit, customs, stamps,
    Option.bind_eq_bind, Option.bind_some, Option.bind_eq_some_iff, Option.guard_eq_some_iff] at validated
  obtain ⟨code, codeRead, text, textRead, count, countRead, measure, measureRead, worth, worthRead,
    needed, neededRead, rfl, accepted⟩ := validated
  obtain rfl := pydantic.text_keeps _ _ codeRead
  obtain rfl := pydantic.text_keeps _ _ measureRead
  obtain rfl := described textRead
  have quantityWhole := pydantic.int_keeps _ _ countRead
  have customsWhole := pydantic.int_keeps _ _ worthRead
  have stampsWhole := pydantic.int_keeps _ _ neededRead
  refine ⟨?_, accepted, ?_⟩
  · exact truncated_item.mpr ⟨_, _, _, whole_truncated quantityWhole, whole_truncated customsWhole,
      whole_truncated stampsWhole, rfl⟩
  · simp only [LineItem.accepted, PyStr.sized, Bool.and_eq_true, decide_eq_true_eq] at accepted
    obtain ⟨⟨⟨⟨⟨⟨shortest, _⟩, _⟩, _⟩, known⟩, _⟩, _⟩ := accepted
    exact
      { hsCode := shortest
        unit := known
        quantity := by rw [quantityWhole]; rfl
        customsValueKobo := by rw [customsWhole]; rfl
        stampsRequired := by rw [stampsWhole]; rfl }

/-- An integral count is read. -/
theorem counted_read {number : Number} (counted : Counted number) (integral : number.whole?.isSome) :
    ∃ count, pydantic.int number.value = some count ∧ 0 ≤ count := by
  obtain ⟨whole, found⟩ := Option.isSome_iff_exists.mp integral
  obtain ⟨count, kept, natural, bounded⟩ := counted
  obtain rfl := Option.some.inj ((whole_truncated found).symm.trans kept)
  refine ⟨whole, pydantic.int_accepts number whole found ?_, natural⟩
  exact decide_eq_true ⟨by omega, bounded⟩

/-- A text that fits a column is short and storable. -/
theorem fits_storable {length : Nat} {text : PyStr} (fits : PyStr.fits length text = true) :
    text.length ≤ length ∧ textColumn text = true := by
  rw [PyStr.fits, Bool.and_eq_true, decide_eq_true_eq] at fits
  exact fits

/-- What a text column takes has no lone surrogate. -/
theorem column_scalar {text : PyStr} (taken : textColumn text = true) : text.all Code.isScalar = true := by
  rw [textColumn, List.all_eq_true] at taken
  rw [List.all_eq_true]
  exact fun code listed => Code.storable_scalar (taken code listed)

/-- A strict line that the columns take is validated. -/
theorem validateLine_accepts (stated : BodyLine line entry) (storable : line.Storable)
    (strict : line.Strict) : ∃ item, validateLine pydantic entry = some item := by
  obtain ⟨members, only, stated⟩ := stated
  have hsCode : Value.lookup (key "hs_code") members = _ := stated.hsCode
  have description : Value.lookup (key "description") members = _ := stated.description
  have quantity : Value.lookup (key "quantity") members = _ := stated.quantity
  have unit : Value.lookup (key "unit") members = _ := stated.unit
  have customs : Value.lookup (key "customs_value_kobo") members = _ := stated.customsValueKobo
  have stamps : Value.lookup (key "stamps_required") members = _ := stated.stampsRequired
  have codeRead := pydantic.text_accepts _ (fits_storable storable.hsCode).2
  have measureRead := pydantic.text_accepts _ (fits_storable storable.unit).2
  have textRead := @described_accepts pydantic _ storable.description
  obtain ⟨count, countRead, countNatural⟩ := @counted_read pydantic _ storable.quantity strict.quantity
  obtain ⟨worth, worthRead, worthNatural⟩ :=
    @counted_read pydantic _ storable.customsValueKobo strict.customsValueKobo
  obtain ⟨needed, neededRead, neededNatural⟩ :=
    @counted_read pydantic _ storable.stampsRequired strict.stampsRequired
  have accepted : LineItem.accepted
      ⟨line.hsCode, line.description.getD [], count, line.unit, worth, needed⟩ = true := by
    simp only [LineItem.accepted, PyStr.sized, Bool.and_eq_true, decide_eq_true_eq]
    obtain ⟨longest, taken⟩ := fits_storable storable.hsCode
    exact ⟨⟨⟨⟨⟨⟨strict.hsCode, longest⟩, column_scalar taken⟩, countNatural⟩, strict.unit⟩,
      worthNatural⟩, neededNatural⟩
  refine ⟨⟨line.hsCode, line.description.getD [], count, line.unit, worth, needed⟩, ?_⟩
  simp only [validateLine, only, hsCode, description, quantity, unit, customs, stamps,
    Option.bind_eq_bind, Option.bind_some, codeRead, textRead, countRead, measureRead, worthRead,
    neededRead]
  exact Option.guard_eq_some_iff.mpr ⟨rfl, accepted⟩

variable {lines : List RawLine} {entries : List Value}

/-- Validated lines are the truncated ones, accepted and strict. -/
theorem validateLines_ok {items : List LineItem} (stated : List.Forall₂ BodyLine lines entries)
    (validated : entries.mapM (validateLine pydantic) = some items) :
    items = truncatedLines lines ∧ items.all LineItem.accepted = true ∧
      ∀ line ∈ lines, line.truncated?.isSome ∧ line.Strict := by
  induction stated generalizing items with
  | nil =>
    cases validated
    exact ⟨rfl, rfl, by simp⟩
  | @cons line entry rest others first _ inductionHypothesis =>
    rw [List.mapM_cons] at validated
    obtain ⟨item, here, validated⟩ := Option.bind_eq_some_iff.mp validated
    obtain ⟨later, following, validated⟩ := Option.bind_eq_some_iff.mp validated
    obtain rfl := Option.some.inj validated
    obtain ⟨kept, accepted, strict⟩ := validateLine_ok first here
    obtain ⟨rfl, all, each⟩ := inductionHypothesis following
    exact ⟨(truncatedLines_cons kept rest).symm, by rw [List.all_cons, accepted, all]; rfl,
      List.forall_mem_cons.mpr ⟨⟨by rw [kept]; rfl, strict⟩, each⟩⟩

/-- The schema takes storable lines of strict numbers. -/
theorem validateLines_accepts (stated : List.Forall₂ BodyLine lines entries)
    (each : ∀ line ∈ lines, line.Storable ∧ line.Strict) :
    ∃ items, entries.mapM (validateLine pydantic) = some items := by
  induction stated with
  | nil => exact ⟨[], rfl⟩
  | @cons line entry rest others first _ inductionHypothesis =>
    obtain ⟨⟨storable, strict⟩, each⟩ := List.forall_mem_cons.mp each
    obtain ⟨item, here⟩ := @validateLine_accepts pydantic _ _ first storable strict
    obtain ⟨items, following⟩ := inductionHypothesis each
    exact ⟨item :: items, by simp [List.mapM_cons, here, following]⟩

end Validation

section Statements

/-- A declaration as a client states it. -/
structure Statement where
  declarationRef : PyStr
  consigneeTin : PyStr
  consigneeName : Option PyStr
  lines : List RawLine

variable {env : Env} {pydantic : Pydantic} {statement : Statement} {tables : Intake}

/-- The fields of the declaration are in order and its reference is new. -/
structure Statement.Valid (statement : Statement) (tables : Intake) : Prop where
  reference : PyStr.sized 3 64 statement.declarationRef = true
  reference_storable : textColumn statement.declarationRef = true
  tin : PyStr.sized 6 32 statement.consigneeTin = true
  tin_storable : textColumn statement.consigneeTin = true
  name : PyStr.fits 256 (statement.consigneeName.getD []) = true
  present : statement.lines ≠ []
  fresh : ∀ row ∈ tables.db.declarations, row.declarationRef ≠ statement.declarationRef

/-- The source of a declaration fits its column and is new. -/
def NewSource (source : PyStr) (tables : Intake) : Prop :=
  PyStr.fits 128 source = true ∧ ∀ row ∈ tables.db.declarations, row.sourceEventId ≠ source

/-- The event states the declaration, and everything beside its lines is in
order: it is new, its audit event is recorded, and the column of the envelope
takes it whenever the columns of the lines take them. -/
structure EventStated (env : Env) (occasion : Occasion) (auditId : Nat) (statement : Statement)
    (tables : Intake) (envelope resource : List (Key × Value)) : Prop where
  identified : ∃ eventId, Value.lookup (key "eventId") envelope = some (.str eventId) ∧
    NewSource eventId tables ∧ (∀ row ∈ tables.processedEvents, row.eventId ≠ eventId) ∧
    ∃ event, Audit.append env occasion.time (py "declaration.received")
      (received statement.declarationRef (.str eventId) (getOr envelope "producer" (.str [])))
      (Audit.latestHash tables.auditEvents) auditId tables.auditEvents = .ok event
  typed : ∃ eventType, Value.lookup (key "eventType") envelope = some (.str eventType) ∧
    PyStr.fits 128 eventType = true
  stored : (∀ line ∈ statement.lines, line.Storable) → ∃ stored, env.jsonb (.dict envelope) = some stored
  declarationRef : Value.lookup (key "declarationRef") resource = some (.str statement.declarationRef)
  consigneeTin : Value.lookup (key "consigneeTin") resource = some (.str statement.consigneeTin)
  consigneeName : Value.lookup (key "consigneeName") resource = statement.consigneeName.map .str
  lines : ∃ rows, Value.lookup (key "lineItems") resource = some (.list rows) ∧
    List.Forall₂ EventLine statement.lines rows

/-- The body states the declaration and has no field beside, and everything
beside its lines is in order. -/
structure BodyStated (env : Env) (occasion : Occasion) (auditId : Nat) (subject : PyStr)
    (statement : Statement) (tables : Intake) (payload : Value) : Prop where
  source : NewSource (py "api:" ++ subject ++ py ":" ++ statement.declarationRef) tables
  audited : ∃ event, Audit.append env occasion.time (py "declaration.received")
    (receivedFrom statement.declarationRef statement.consigneeTin subject)
    (Audit.latestHash tables.auditEvents) auditId tables.auditEvents = .ok event
  fields : ∃ members, membersIn declarationFields payload = some members ∧
    Value.lookup (key "declaration_ref") members = some (.str statement.declarationRef) ∧
    Value.lookup (key "consignee_tin") members = some (.str statement.consigneeTin) ∧
    Value.lookup (key "consignee_name") members = statement.consigneeName.map .str ∧
    ∃ entries, Value.lookup (key "lines") members = some (.list entries) ∧
      List.Forall₂ BodyLine statement.lines entries

/-- A declaration in order is added when the columns take its lines. -/
theorem addDeclaration_iff {occasion : Occasion} {source : PyStr} {items : List LineItem} {after : Db}
    (valid : statement.Valid tables) (new : NewSource source tables) :
    addDeclaration occasion statement.declarationRef statement.consigneeTin
        (statement.consigneeName.getD []) source items tables.db = .ok after ↔
      (∀ item ∈ items, ItemStorable item) ∧ after =
        { tables.db with
          declarations := tables.db.declarations ++
            [⟨statement.declarationRef, statement.consigneeTin, statement.consigneeName.getD [], source,
              occasion.time, occasion.time⟩]
          declarationLines := tables.db.declarationLines ++
            items.map (lineRow tables.db.declarations.length) } := by
  have sized : ∀ {least most : Nat} {text : PyStr}, PyStr.sized least most text = true →
      textColumn text = true → PyStr.fits most text = true := by
    intro least most text within taken
    rw [PyStr.sized, Bool.and_eq_true, decide_eq_true_eq] at within
    rw [PyStr.fits, Bool.and_eq_true]
    exact ⟨decide_eq_true within.1.2, taken⟩
  have accepted : (tables.db.declarations.all fun other =>
      decide (other.declarationRef ≠ statement.declarationRef) &&
        decide (other.sourceEventId ≠ source)) = true := by
    rw [List.all_eq_true]
    intro row listed
    rw [Bool.and_eq_true]
    exact ⟨decide_eq_true (valid.fresh row listed), decide_eq_true (new.2 row listed)⟩
  rw [addDeclaration, Db.insertDeclaration, sized valid.reference valid.reference_storable,
    sized valid.tin valid.tin_storable, valid.name, new.1, accepted]
  exact addLines_iff

variable {occasion : Occasion} {auditId : Nat} {envelope resource : List (Key × Value)}

/-- The part of `_apply` that depends on the lines. -/
theorem apply_eq (valid : statement.Valid tables)
    (stated : EventStated env occasion auditId statement tables envelope resource) :
    ∃ rows eventId eventType event, List.Forall₂ EventLine statement.lines rows ∧
      NewSource eventId tables ∧ (∀ row ∈ tables.processedEvents, row.eventId ≠ eventId) ∧
      PyStr.fits 128 eventType = true ∧
      apply env occasion auditId envelope resource tables = (do
        let lines ← readLines env.unicode rows
        let later ← flush env occasion (.dict envelope) eventId eventType statement.declarationRef
          statement.consigneeTin (statement.consigneeName.getD []) lines event tables
        .ok (.applied, later)) := by
  obtain ⟨eventId, identified, new, unprocessed, event, appended⟩ := stated.identified
  obtain ⟨eventType, typed, typeFits⟩ := stated.typed
  obtain ⟨rows, listed, each⟩ := stated.lines
  refine ⟨rows, eventId, eventType, event, each, new, unprocessed, typeFits, ?_⟩
  have items : lineItemsOf resource = .ok rows := by
    have present := valid.present
    rw [lineItemsOf, subscript, listed]
    generalize statement.lines = lines at each present
    cases each with
    | nil => exact absurd rfl present
    | cons => rfl
  have unseen : processed (.str eventId) tables = .ok false := by
    have absent : (tables.processedEvents.any fun row => decide (row.eventId = eventId)) = false :=
      List.any_eq_false.mpr fun row member => by simpa using unprocessed row member
    have storable : textColumn eventId = true := (fits_storable new.1).2
    rw [processed, storable, absent]
    rfl
  have name : ((statement.consigneeName.map Value.str).getD (.str [])).toStr env.unicode =
      statement.consigneeName.getD [] := by
    cases statement.consigneeName <;> rfl
  have texts : ∀ value, (Value.str value).toStr env.unicode = value := fun _ => rfl
  simp only [apply, subscript, identified, items, unseen, Result.ok_bind, Bool.false_eq_true, if_false,
    applyNew, stated.declarationRef, stated.consigneeTin, texts, typed, textOf, appended, bind_assoc]
  rw [getOr, stated.consigneeName, name]

/-- The flush stores the declaration when the columns take the envelope and
the lines. -/
theorem flush_iff {eventId eventType : PyStr} {items : List LineItem} {event : AuditEvent} {later : Intake}
    {document : Value} (new : NewSource eventId tables) (unprocessed : ∀ row ∈ tables.processedEvents,
      row.eventId ≠ eventId) (typeFits : PyStr.fits 128 eventType = true) :
    flush env occasion document eventId eventType statement.declarationRef statement.consigneeTin
        (statement.consigneeName.getD []) items event tables = .ok later ↔
      (∃ stored, env.jsonb document = some stored) ∧
        ∃ db, addDeclaration occasion statement.declarationRef statement.consigneeTin
            (statement.consigneeName.getD []) eventId items tables.db = .ok db ∧
          later = ⟨db, tables.processedEvents ++ [⟨eventId, eventType⟩], tables.auditEvents ++ [event]⟩ := by
  have accepted : (tables.processedEvents.all fun other => decide (other.eventId ≠ eventId)) = true :=
    List.all_eq_true.mpr fun row member => decide_eq_true (unprocessed row member)
  have inserted : insertProcessedEvent ⟨eventId, eventType⟩ tables.processedEvents =
      .ok (tables.processedEvents ++ [⟨eventId, eventType⟩]) := by
    rw [insertProcessedEvent, new.1, typeFits, accepted]
    rfl
  constructor
  · intro flushed
    obtain ⟨stored, column, flushed⟩ := Result.bind_ok.mp flushed
    obtain ⟨db, added, flushed⟩ := Result.bind_ok.mp flushed
    rw [inserted] at flushed
    cases flushed
    exact ⟨⟨stored, Db.jsonbColumn_ok column⟩, db, added, rfl⟩
  · rintro ⟨⟨stored, column⟩, db, added, rfl⟩
    rw [flush, Db.jsonbColumn, column, Result.ok_bind, added, Result.ok_bind, inserted]
    rfl


/-- The rows that an intake adds. -/
def addedRows (statement : Statement) (tables : Intake) : List DeclarationLine :=
  (truncatedLines statement.lines).map (lineRow tables.db.declarations.length)

/-- A declaration whose event is applied has lines that the columns take. -/
theorem applied_ok (valid : statement.Valid tables)
    (stated : EventStated env occasion auditId statement tables envelope resource)
    {disposition : Disposition} {later : Intake}
    (applied : apply env occasion auditId envelope resource tables = .ok (disposition, later)) :
    (∀ line ∈ statement.lines, line.Storable) ∧
      later.db.declarationLines = tables.db.declarationLines ++ addedRows statement tables := by
  obtain ⟨rows, eventId, eventType, event, each, new, unprocessed, typeFits, same⟩ := apply_eq valid stated
  rw [same] at applied
  obtain ⟨items, readable, applied⟩ := Result.bind_ok.mp applied
  obtain ⟨written, flushed, applied⟩ := Result.bind_ok.mp applied
  cases applied
  obtain ⟨known, rfl⟩ := (readLines_iff each).mp readable
  obtain ⟨_, db, added, rfl⟩ := (flush_iff new unprocessed typeFits).mp flushed
  obtain ⟨storable, rfl⟩ := (addDeclaration_iff valid new).mp added
  exact ⟨storables_iff.mpr ⟨known, storable⟩, rfl⟩

/-- An event is applied when the columns take its lines. -/
theorem applied_accepts (valid : statement.Valid tables)
    (stated : EventStated env occasion auditId statement tables envelope resource)
    (storable : ∀ line ∈ statement.lines, line.Storable) :
    ∃ later, apply env occasion auditId envelope resource tables = .ok (.applied, later) := by
  obtain ⟨rows, eventId, eventType, event, each, new, unprocessed, typeFits, same⟩ := apply_eq valid stated
  obtain ⟨known, items⟩ := storables_iff.mp storable
  have added := (@addDeclaration_iff _ _ occasion _ _ _ valid new).mpr ⟨items, rfl⟩
  have flushed := (@flush_iff env _ _ occasion _ _ _ event _ _ new unprocessed typeFits).mpr
    ⟨stated.stored storable, _, added, rfl⟩
  rw [same, (readLines_iff each).mpr ⟨known, rfl⟩, Result.ok_bind, flushed]
  exact ⟨_, rfl⟩

variable {subject : PyStr} {payload : Value}

/-- The part of the validation that depends on the lines. -/
theorem validateDeclaration_eq (valid : statement.Valid tables)
    (stated : BodyStated env occasion auditId subject statement tables payload) :
    ∃ entries, List.Forall₂ BodyLine statement.lines entries ∧
      validateDeclaration pydantic payload = (entries.mapM (validateLine pydantic)).bind
        (declarationIn? statement.declarationRef statement.consigneeTin
          (statement.consigneeName.getD [])) := by
  obtain ⟨members, only, reference, tin, name, entries, lines, each⟩ := stated.fields
  refine ⟨entries, each, ?_⟩
  have referenceRead := pydantic.text_accepts _ valid.reference_storable
  have tinRead := pydantic.text_accepts _ valid.tin_storable
  have nameRead := @described_accepts pydantic _ (fits_storable valid.name).2
  simp only [validateDeclaration, only, reference, tin, name, lines, Option.bind_eq_bind,
    Option.bind_some, referenceRead, tinRead, nameRead, listField]

/-- A built body has the fields it is built from, and accepted lines. -/
theorem declarationIn_ok {declarationRef consigneeTin consigneeName : PyStr} {items : List LineItem}
    {body : DeclarationIn} (built : declarationIn? declarationRef consigneeTin consigneeName items = some body) :
    body.declarationRef = declarationRef ∧ body.consigneeTin = consigneeTin ∧
      body.consigneeName = consigneeName ∧ body.lines = items := by
  rw [declarationIn?] at built
  split at built
  case isTrue =>
    cases built
    exact ⟨rfl, rfl, rfl, rfl⟩
  case isFalse => cases built

/-- The schema takes a body whose fields are valid. -/
theorem declarationIn_accepts {declarationRef consigneeTin : PyStr} (consigneeName : PyStr)
    {items : List LineItem} (reference : PyStr.sized 3 64 declarationRef = true)
    (tin : PyStr.sized 6 32 consigneeTin = true) (present : items ≠ [])
    (accepted : items.all LineItem.accepted = true) :
    ∃ body, declarationIn? declarationRef consigneeTin consigneeName items = some body := by
  rw [declarationIn?, dif_pos ⟨reference, tin, present, accepted⟩]
  exact ⟨_, rfl⟩

/-- The transaction of a validated body. -/
theorem posted_iff (valid : statement.Valid tables) {body : DeclarationIn} {items : List LineItem}
    (validated : validateDeclaration pydantic payload = some body)
    (built : declarationIn? statement.declarationRef statement.consigneeTin
      (statement.consigneeName.getD []) items = some body) {later : Intake} :
    postDeclaration env pydantic occasion auditId subject payload tables = .ok later ↔
      ∃ db, addDeclaration occasion statement.declarationRef statement.consigneeTin
          (statement.consigneeName.getD [])
          (py "api:" ++ subject ++ py ":" ++ statement.declarationRef) items tables.db = .ok db ∧
        ∃ event, Audit.append env occasion.time (py "declaration.received")
          (receivedFrom statement.declarationRef statement.consigneeTin subject)
          (Audit.latestHash tables.auditEvents) auditId tables.auditEvents = .ok event ∧
        later = ⟨db, tables.processedEvents, tables.auditEvents ++ [event]⟩ := by
  obtain ⟨reference, tin, name, lines⟩ := declarationIn_ok built
  have absent : (tables.db.declarations.all fun row =>
      decide (row.declarationRef ≠ statement.declarationRef)) = true :=
    List.all_eq_true.mpr fun row listed => decide_eq_true (valid.fresh row listed)
  rw [postDeclaration, validated]
  simp only [createDeclaration, requireUndeclared, declare, reference, tin, name, lines, absent, Result.require, if_true,
    Result.ok_bind, Result.bind_ok, Except.ok.injEq, eq_comm (b := later)]

/-- A declaration whose body is accepted has strict lines that the columns take. -/
theorem posted_ok (valid : statement.Valid tables)
    (stated : BodyStated env occasion auditId subject statement tables payload) {later : Intake}
    (posted : postDeclaration env pydantic occasion auditId subject payload tables = .ok later) :
    (∀ line ∈ statement.lines, line.Storable ∧ line.Strict) ∧
      later.db.declarationLines = tables.db.declarationLines ++ addedRows statement tables := by
  obtain ⟨entries, each, same⟩ := @validateDeclaration_eq _ pydantic _ _ _ _ _ _ valid stated
  cases validated : validateDeclaration pydantic payload with
  | none =>
    rw [postDeclaration, validated] at posted
    cases posted
  | some body =>
    obtain ⟨items, read, built⟩ := Option.bind_eq_some_iff.mp (same.symm.trans validated)
    obtain ⟨rfl, _, known⟩ := validateLines_ok each read
    obtain ⟨db, added, _, _, rfl⟩ := (posted_iff valid validated built).mp posted
    obtain ⟨items, rfl⟩ := (addDeclaration_iff valid stated.source).mp added
    have storable := storables_iff.mpr ⟨fun line listed => (known line listed).1, items⟩
    exact ⟨fun line listed => ⟨storable line listed, (known line listed).2⟩, rfl⟩

/-- A body is accepted when its lines are strict and the columns take them. -/
theorem posted_accepts (valid : statement.Valid tables)
    (stated : BodyStated env occasion auditId subject statement tables payload)
    (each : ∀ line ∈ statement.lines, line.Storable ∧ line.Strict) :
    ∃ later, postDeclaration env pydantic occasion auditId subject payload tables = .ok later := by
  obtain ⟨entries, lines, same⟩ := @validateDeclaration_eq _ pydantic _ _ _ _ _ _ valid stated
  obtain ⟨items, read⟩ := @validateLines_accepts pydantic _ _ lines each
  obtain ⟨rfl, accepted, known⟩ := validateLines_ok lines read
  have readable := fun line listed => (known line listed).1
  obtain ⟨body, built⟩ := declarationIn_accepts (statement.consigneeName.getD []) valid.reference
    valid.tin (truncatedLines_present valid.present readable) accepted
  rw [read, Option.bind_some] at same
  have items := (storables_iff.mp fun line listed => (each line listed).1).2
  obtain ⟨event, appended⟩ := stated.audited
  have added := (@addDeclaration_iff _ _ occasion _ _ _ valid stated.source).mpr ⟨items, rfl⟩
  exact ⟨_, (posted_iff valid (same.trans built) built).mpr ⟨_, added, event, appended, rfl⟩⟩

/-- The columns that both intakes are to fill alike. -/
def persisted (row : DeclarationLine) : PyStr × Int × PyStr × Int × Int :=
  (row.hsCode, row.quantity, row.unit, row.customsValueKobo, row.stampsRequired)

/-- The intakes agree: one takes the declaration exactly when the other does,
and then both write the same lines. -/
structure Agree (tables : Intake) (applied : Result (Disposition × Intake)) (posted : Result Intake) :
    Prop where
  accepted : (∃ later, applied = .ok (.applied, later)) ↔ ∃ later, posted = .ok later
  same : ∀ later other, applied = .ok (.applied, later) → posted = .ok other →
    ∃ rows others, later.db.declarationLines = tables.db.declarationLines ++ rows ∧
      other.db.declarationLines = tables.db.declarationLines ++ others ∧
      rows.map persisted = others.map persisted

/-- The intakes agree on a declaration exactly when the columns refuse one of
its lines or all of them are strict. -/
theorem intakes_agree {appliedAt postedAt : Occasion} {appliedId postedId : Nat}
    (valid : statement.Valid tables)
    (event : EventStated env appliedAt appliedId statement tables envelope resource)
    (body : BodyStated env postedAt postedId subject statement tables payload) :
    Agree tables (apply env appliedAt appliedId envelope resource tables)
        (postDeclaration env pydantic postedAt postedId subject payload tables) ↔
      (∃ line ∈ statement.lines, ¬ line.Storable) ∨ ∀ line ∈ statement.lines, line.Strict := by
  constructor
  · intro agree
    by_cases storable : ∀ line ∈ statement.lines, line.Storable
    · obtain ⟨later, posted⟩ := agree.accepted.mp (applied_accepts valid event storable)
      exact Or.inr fun line listed => ((posted_ok valid body posted).1 line listed).2
    · exact Or.inl (by simpa using storable)
  · intro parted
    constructor
    case accepted =>
      constructor
      · rintro ⟨later, applied⟩
        have storable := (applied_ok valid event applied).1
        rcases parted with ⟨line, listed, refused⟩ | strict
        · exact absurd (storable line listed) refused
        · exact posted_accepts valid body fun line listed => ⟨storable line listed, strict line listed⟩
      · rintro ⟨later, posted⟩
        exact applied_accepts valid event fun line listed => ((posted_ok valid body posted).1 line listed).1
    case same =>
      intro later other applied posted
      exact ⟨_, _, (applied_ok valid event applied).2, (posted_ok valid body posted).2, rfl⟩

end Statements

section Sample

/-- `1.5`. -/
def oneAndHalf : PyFloat := .finite false ⟨[1], some [5], none, by decide, by decide +kernel, Decimal.unscaled⟩

/-- A line with the given quantity. -/
def sampleLine (quantity : Number) : RawLine :=
  ⟨py "2402.20", none, quantity, py "STICK", .integer 500000, .integer 10⟩

/-- A declaration of one line. -/
def sampleStatement (quantity : Number) : Statement :=
  ⟨py "DCL-1", py "12345678-0001", none, [sampleLine quantity]⟩

/-- The members of a line item under the names. -/
def sampleEntry (names : LineNames) (line : RawLine) : List (Key × Value) :=
  [(key names.hsCode, .str line.hsCode),
    (key names.quantity, line.quantity.value),
    (key names.unit, .str line.unit),
    (key names.customsValueKobo, line.customsValueKobo.value),
    (key names.stampsRequired, line.stampsRequired.value)]

/-- The resource of the sample event. -/
def sampleResource (quantity : Number) : List (Key × Value) :=
  [(key "declarationRef", Value.literal "DCL-1"),
    (key "consigneeTin", Value.literal "12345678-0001"),
    (key "lineItems", .list [.dict (sampleEntry eventNames (sampleLine quantity))])]

/-- The envelope of the sample event. -/
def sampleEnvelope (quantity : Number) : List (Key × Value) :=
  [(key "envelopeVersion", Value.literal "1.0"),
    (key "eventId", Value.literal "evt-1"),
    (key "eventType", Value.literal "declarations.imported.v1"),
    (key "fhir", .dict
      [(key "resourceType", Value.literal "Bundle"),
        (key "type", Value.literal "message"),
        (key "entry", .list [.dict [(key "resource", .dict (sampleResource quantity))]])])]

/-- The body of the sample request. -/
def samplePayload (quantity : Number) : Value :=
  .dict
    [(key "declaration_ref", Value.literal "DCL-1"),
      (key "consignee_tin", Value.literal "12345678-0001"),
      (key "lines", .list [.dict (sampleEntry bodyNames (sampleLine quantity))])]

/-- The tables after the migration. -/
def noTables : Intake := ⟨.empty, [], []⟩

/-- The audit events of the sample can be recorded. -/
theorem sample_audited :
    (Audit.append .decimal Api.Sample.occasion.time (py "declaration.received")
        (received (py "DCL-1") (Value.literal "evt-1") (.str [])) Audit.genesisHash 0 []).isOk = true ∧
      (Audit.append .decimal Api.Sample.occasion.time (py "declaration.received")
        (receivedFrom (py "DCL-1") (py "12345678-0001") (py "broker")) Audit.genesisHash 0 []).isOk =
        true := by decide +kernel

/-- A result that is a value has one. -/
theorem recorded_of_isOk {event : Result AuditEvent} (recorded : event.isOk = true) :
    ∃ row, event = .ok row := by
  cases event with
  | ok row => exact ⟨row, rfl⟩
  | error problem => cases recorded

/-- The sample statement is valid. -/
theorem sample_valid (quantity : Number) : (sampleStatement quantity).Valid noTables where
  reference := show PyStr.sized 3 64 (py "DCL-1") = true by decide
  reference_storable := show textColumn (py "DCL-1") = true by decide
  tin := show PyStr.sized 6 32 (py "12345678-0001") = true by decide
  tin_storable := show textColumn (py "12345678-0001") = true by decide
  name := rfl
  present := List.cons_ne_nil _ _
  fresh _ absent := by cases absent

/-- The sample envelope states the sample. -/
theorem sample_event (quantity : Number) :
    EventStated .decimal Api.Sample.occasion 0 (sampleStatement quantity) noTables
      (sampleEnvelope quantity) (sampleResource quantity) where
  identified := ⟨py "evt-1", rfl, ⟨by decide, fun _ absent => (by cases absent)⟩,
    fun _ absent => (by cases absent), recorded_of_isOk sample_audited.1⟩
  typed := ⟨py "declarations.imported.v1", rfl, by decide⟩
  stored _ := ⟨_, rfl⟩
  declarationRef := rfl
  consigneeTin := rfl
  consigneeName := rfl
  lines := ⟨_, rfl, .cons ⟨_, rfl, ⟨rfl, rfl, rfl, rfl, rfl, rfl⟩⟩ .nil⟩

/-- The sample body states the sample. -/
theorem sample_body (quantity : Number) :
    BodyStated .decimal Api.Sample.occasion 0 (py "broker") (sampleStatement quantity) noTables
      (samplePayload quantity) where
  source := ⟨show PyStr.fits 128 (py "api:" ++ py "broker" ++ py ":" ++ py "DCL-1") = true by decide,
    fun _ absent => by cases absent⟩
  audited := recorded_of_isOk sample_audited.2
  fields := ⟨_, rfl, rfl, rfl, rfl, _, rfl, .cons ⟨_, rfl, ⟨rfl, rfl, rfl, rfl, rfl, rfl⟩⟩ .nil⟩

/-- One and a half is truncated to one, and has a fractional part. -/
theorem oneAndHalf_reads :
    truncated? (.float oneAndHalf) = some 1 ∧ oneAndHalf.whole? = none := by decide +kernel

/-- The intakes agree on ten sticks. -/
theorem intakes_agree_sample :
    (sampleStatement (.integer 10)).Valid noTables ∧
      Agree noTables
        (apply .decimal Api.Sample.occasion 0 (sampleEnvelope (.integer 10)) (sampleResource (.integer 10))
          noTables)
        (postDeclaration .decimal .sample Api.Sample.occasion 0 (py "broker")
          (samplePayload (.integer 10)) noTables) := by
  refine ⟨sample_valid _, (intakes_agree (sample_valid _) (sample_event _) (sample_body _)).mpr
    (Or.inr ?_)⟩
  intro line listed
  obtain rfl := List.mem_singleton.mp listed
  exact ⟨by decide, by decide, rfl, rfl, rfl⟩

/-- A quantity of 1.5: the consumer stores one, the route refuses. -/
theorem fractional_quantity :
    (sampleStatement (.float oneAndHalf)).Valid noTables ∧
      EventStated .decimal Api.Sample.occasion 0 (sampleStatement (.float oneAndHalf)) noTables
        (sampleEnvelope (.float oneAndHalf)) (sampleResource (.float oneAndHalf)) ∧
      BodyStated .decimal Api.Sample.occasion 0 (py "broker") (sampleStatement (.float oneAndHalf))
        noTables (samplePayload (.float oneAndHalf)) ∧
      ¬ Agree noTables
        (apply .decimal Api.Sample.occasion 0 (sampleEnvelope (.float oneAndHalf))
          (sampleResource (.float oneAndHalf)) noTables)
        (postDeclaration .decimal .sample Api.Sample.occasion 0 (py "broker")
          (samplePayload (.float oneAndHalf)) noTables) := by
  refine ⟨sample_valid _, sample_event _, sample_body _, fun agree => ?_⟩
  have storable : ∀ line ∈ (sampleStatement (.float oneAndHalf)).lines, line.Storable := by
    intro line listed
    obtain rfl := List.mem_singleton.mp listed
    exact
      { hsCode := by decide
        description := rfl
        unit := by decide
        quantity := ⟨1, oneAndHalf_reads.1, by decide, by decide⟩
        customsValueKobo := ⟨500000, rfl, by decide, by decide⟩
        stampsRequired := ⟨10, rfl, by decide, by decide⟩ }
  obtain ⟨later, posted⟩ := agree.accepted.mp (applied_accepts (sample_valid _) (sample_event _) storable)
  have strict := ((posted_ok (sample_valid _) (sample_body _) posted).1 _ List.mem_cons_self).2
  have integral := strict.quantity
  rw [show (sampleLine (.float oneAndHalf)).quantity.whole? = none from oneAndHalf_reads.2] at integral
  cases integral

end Sample

end TaxStamps.Intakes
