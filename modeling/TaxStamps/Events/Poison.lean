import TaxStamps.Events.Escapes

/-!
# Messages that stop the consumer

An iteration commits the offset unless the exception it meets is neither a
`ValueError` nor a `KeyError`. Such an exception comes from a provenance that is
no object, from a raw entry with a field of a type that `int` refuses, or from a
table that refuses what a verified envelope holds.
-/

namespace TaxStamps.Consumer

open Envelope

variable {env : Env} {loads : Loads} {directory : KeyDirectory} {decoder : Decoder}
  {occasion : Occasion} {auditId : Nat} {intake : Intake}

/-- The iteration commits the offset, and changes the tables only by applying
the message. -/
def Survives (env : Env) (loads : Loads) (directory : KeyDirectory) (decoder : Decoder)
    (occasion : Occasion) (auditId : Nat) (message : Bytes) (intake : Intake) : Prop :=
  ∃ disposition later,
    iterate env loads directory decoder occasion auditId message intake = .ok (disposition, later) ∧
      (later ≠ intake → disposition = some .applied)

/-- An iteration survives unless an exception escapes. -/
theorem survives_iff {message : Bytes} :
    Survives env loads directory decoder occasion auditId message intake ↔
      ¬ Escapes (handle env loads directory decoder occasion auditId message intake) := by
  rw [Survives, iterate]
  cases result : handle env loads directory decoder occasion auditId message intake with
  | error problem => cases handled : caught problem <;> simp [handled]
  | ok answer =>
    obtain ⟨disposition, later⟩ := answer
    obtain ⟨envelope, _, applied⟩ := Result.bind_ok.mp result
    obtain ⟨resource, _, applied⟩ := Result.bind_ok.mp applied
    obtain ⟨_, _, applied⟩ := Result.bind_ok.mp applied
    obtain ⟨_, _, _, _, outcome⟩ := apply_ok applied
    refine iff_of_true ⟨some disposition, later, rfl, fun changed => ?_⟩ escapes_ok
    rcases outcome with ⟨_, unchanged⟩ | ⟨applied, _⟩
    · exact absurd unchanged changed
    · rw [applied]

section Conversions

/-- `int` refuses the type of the value, or the value is infinite. -/
def unconvertible : Value → Bool
  | .float (.infinity _) => true
  | .float _ => false
  | .bool _ => false
  | .int _ => false
  | .str _ => false
  | _ => true

/-- `int()` escapes exactly for what it cannot convert. -/
theorem escapes_intOf {tables : Unicode} {value : Value} :
    Escapes (intOf tables value) ↔ unconvertible value = true := by
  cases value with
  | float number => cases number <;> simp [intOf, Verify.intOf, unconvertible, caught]
  | str text =>
    change Escapes (Verify.intOfText tables text) ↔ _
    unfold Verify.intOfText
    dsimp only
    repeat' split
    all_goals simp [unconvertible, caught]
  | _ => simp [intOf, Verify.intOf, unconvertible, caught]

/-- A missing member raises what is caught. -/
theorem subscript_contained (members : List (Key × Value)) (name : String) :
    ¬ Escapes (subscript members name) := by
  rw [subscript]
  split <;> simp [caught]

/-- A subscript is a lookup that succeeds. -/
theorem subscript_ok {members : List (Key × Value)} {name : String} {value : Value} :
    subscript members name = .ok value ↔ Value.lookup (key name) members = some value := by
  rw [subscript]
  cases Value.lookup (key name) members <;> simp

/-- A number that `int` makes of a value. -/
def Whole (tables : Unicode) (value : Value) : Prop := ∃ number, intOf tables value = .ok number

/-- The first field of a raw entry that cannot be converted is of a type that
`int` refuses; a missing field or a text that is no number comes to nothing. -/
structure Mistyped (tables : Unicode) (raw : List (Key × Value)) : Prop where
  coded : (Value.lookup (key "hsCode") raw).isSome = true
  counted : ∃ quantity, Value.lookup (key "quantity") raw = some quantity ∧
    (unconvertible quantity = true ∨ Whole tables quantity ∧
      (Value.lookup (key "unit") raw).isSome = true ∧
      (unconvertible (getOr raw "customsValueKobo" (.int 0)) = true ∨
        Whole tables (getOr raw "customsValueKobo" (.int 0)) ∧
        unconvertible (getOr raw "stampsRequired" quantity) = true))

/-- A raw entry that stops the loop over the entries. -/
def Stops (tables : Unicode) (raw : Value) : Prop :=
  ∀ members, raw = .dict members → Mistyped tables members

/-- Reading a line escapes exactly when the line stops the consumer. -/
theorem escapes_readLine {tables : Unicode} {raw : Value} :
    Escapes (readLine tables raw) ↔ Stops tables raw := by
  cases raw with
  | dict members =>
    have stopped : Stops tables (.dict members) ↔ Mistyped tables members :=
      ⟨fun stops => stops members rfl, fun mistyped _ same => Value.dict.inj same ▸ mistyped⟩
    rw [stopped, readLine, escapes_after (subscript_contained _ _)]
    constructor
    · rintro ⟨hsCode, coded, later⟩
      rw [escapes_after (subscript_contained _ _)] at later
      obtain ⟨quantity, counted, later⟩ := later
      rw [subscript_ok] at coded counted
      refine ⟨by rw [coded]; rfl, quantity, counted, ?_⟩
      rw [escapes_bind, escapes_intOf] at later
      rcases later with refused | ⟨number, whole, later⟩
      · exact Or.inl refused
      rw [escapes_after (subscript_contained _ _)] at later
      obtain ⟨unit, measured, later⟩ := later
      rw [subscript_ok] at measured
      refine Or.inr ⟨⟨number, whole⟩, by rw [measured]; rfl, ?_⟩
      rw [escapes_bind, escapes_intOf] at later
      rcases later with refused | ⟨value, valued, later⟩
      · exact Or.inl refused
      rw [escapes_bind, escapes_intOf] at later
      rcases later with refused | ⟨_, _, done⟩
      · exact Or.inr ⟨⟨value, valued⟩, refused⟩
      · exact absurd done escapes_ok
    · rintro ⟨coded, quantity, counted, outcome⟩
      obtain ⟨hsCode, coded⟩ := Option.isSome_iff_exists.mp coded
      refine ⟨hsCode, subscript_ok.mpr coded, ?_⟩
      rw [escapes_after (subscript_contained _ _)]
      refine ⟨quantity, subscript_ok.mpr counted, ?_⟩
      rw [escapes_bind, escapes_intOf]
      rcases outcome with refused | ⟨⟨number, whole⟩, measured, outcome⟩
      · exact Or.inl refused
      obtain ⟨unit, measured⟩ := Option.isSome_iff_exists.mp measured
      refine Or.inr ⟨number, whole, ?_⟩
      rw [escapes_after (subscript_contained _ _)]
      refine ⟨unit, subscript_ok.mpr measured, ?_⟩
      rw [escapes_bind, escapes_intOf]
      rcases outcome with refused | ⟨⟨value, valued⟩, refused⟩
      · exact Or.inl refused
      · refine Or.inr ⟨value, valued, ?_⟩
        rw [escapes_bind, escapes_intOf]
        exact Or.inl refused
  | _ => simp [readLine, Stops, caught]

/-- The loop over the entries stops at the first entry it cannot read, when that
entry stops it. -/
theorem escapes_readLines {tables : Unicode} {rows : List Value} :
    Escapes (readLines tables rows) ↔ ∃ before raw after lines, rows = before ++ raw :: after ∧
      readLines tables before = .ok lines ∧ Stops tables raw := by
  induction rows with
  | nil => simp [readLines]
  | cons first rest inductionHypothesis =>
    rw [readLines, escapes_bind, escapes_readLine]
    constructor
    · rintro (stops | ⟨line, readable, later⟩)
      · exact ⟨[], first, rest, [], rfl, rfl, stops⟩
      · rw [escapes_bind, inductionHypothesis] at later
        rcases later with ⟨before, raw, after, lines, rfl, others, stops⟩ | ⟨_, _, done⟩
        · exact ⟨first :: before, raw, after, line :: lines, rfl, by
            simp only [readLines, readable, others, Result.ok_bind], stops⟩
        · exact absurd done escapes_ok
    · rintro ⟨before, raw, after, lines, split, readable, stops⟩
      cases before with
      | nil =>
        obtain ⟨rfl, rfl⟩ := List.cons.inj split
        exact Or.inl stops
      | cons entry before =>
        obtain ⟨rfl, rfl⟩ := List.cons.inj split
        obtain ⟨line, here, readable⟩ := Result.bind_ok.mp readable
        obtain ⟨others, later, readable⟩ := Result.bind_ok.mp readable
        refine Or.inr ⟨line, here, ?_⟩
        rw [escapes_bind, inductionHypothesis]
        exact Or.inl ⟨before, raw, after, others, rfl, later, stops⟩

end Conversions

section Tables

variable {α : Type} {db : Db}

/-- A table that refuses escapes. -/
theorem escapes_constrained {table : String} {accepted : Bool} {next : Unit → Result α} :
    Escapes (Db.constrain table accepted >>= next) ↔ (accepted = true → Escapes (next ())) := by
  cases accepted <;> simp [Db.constrain, Result.require, caught]

/-- What follows a stored document can escape only if the document is stored. -/
theorem escapes_stored {table : String} {document : Value} {next : Value → Result α} :
    Escapes (Db.jsonbColumn env table document >>= next) ↔
      ∀ stored, env.jsonb document = some stored → Escapes (next stored) := by
  rw [Db.jsonbColumn]
  cases env.jsonb document <;> simp [caught]

/-- The columns and checks of `declaration_lines`. -/
def lineAccepted (item : LineItem) : Bool :=
  PyStr.fits 16 item.hsCode && textColumn item.description && bigIntegerColumn item.quantity &&
    PyStr.fits 16 item.unit && bigIntegerColumn item.customsValueKobo &&
    bigIntegerColumn item.stampsRequired && decide (0 ≤ item.quantity) &&
    decide (0 ≤ item.customsValueKobo) && decide (0 ≤ item.stampsRequired)

/-- What follows the lines can escape only if the table takes them, else the refusal does. -/
theorem escapes_addLines {declarationId : Nat} {items : List LineItem} {next : Db → Result α} :
    Escapes (Api.addLines declarationId items db >>= next) ↔
      ((∀ item ∈ items, lineAccepted item = true) → Escapes (next { db with
        declarationLines := db.declarationLines ++ items.map (Api.lineRow declarationId) })) := by
  induction items generalizing db with
  | nil => simp [Api.addLines]
  | cons item rest inductionHypothesis =>
    rw [Api.addLines, Db.insertDeclarationLine, bind_assoc, bind_assoc, escapes_constrained,
      Result.ok_bind, inductionHypothesis, List.forall_mem_cons, List.append_assoc]
    exact and_imp.symm

/-- The columns and keys of `declarations`. -/
def declarationAccepted (row : Declaration) (db : Db) : Bool :=
  PyStr.fits 64 row.declarationRef && PyStr.fits 32 row.consigneeTin &&
    PyStr.fits 256 row.consigneeName && PyStr.fits 128 row.sourceEventId &&
    db.declarations.all (fun other => decide (other.declarationRef ≠ row.declarationRef) &&
      decide (other.sourceEventId ≠ row.sourceEventId))

/-- The columns and the key of `processed_events`. -/
def eventAccepted (row : ProcessedEvent) (rows : List ProcessedEvent) : Bool :=
  PyStr.fits 128 row.eventId && PyStr.fits 128 row.eventType &&
    rows.all (fun other => decide (other.eventId ≠ row.eventId))

/-- The tables accept what a flush writes. -/
structure Accepted (env : Env) (envelope : Value) (row : Declaration) (lines : List LineItem)
    (event : ProcessedEvent) (intake : Intake) : Prop where
  document : ∃ stored, env.jsonb envelope = some stored
  declared : declarationAccepted row intake.db = true
  lined : ∀ item ∈ lines, lineAccepted item = true
  processed : eventAccepted event intake.processedEvents = true

/-- Writing the rows escapes exactly when a table refuses one. -/
theorem escapes_flush {envelope : Value} {eventId eventType declarationRef consigneeTin consigneeName : PyStr}
    {lines : List LineItem} {event : AuditEvent} :
    Escapes (flush env occasion envelope eventId eventType declarationRef consigneeTin consigneeName lines
      event intake) ↔ ¬ Accepted env envelope ⟨declarationRef, consigneeTin, consigneeName, eventId,
        occasion.time, occasion.time⟩ lines ⟨eventId, eventType⟩ intake := by
  rw [flush, escapes_stored, Api.addDeclaration, Db.insertDeclaration]
  simp only [bind_assoc, escapes_constrained, Result.ok_bind, escapes_addLines, insertProcessedEvent,
    escapes_ok]
  constructor
  · intro refused accepted
    obtain ⟨stored, kept⟩ := accepted.document
    exact refused stored kept accepted.declared accepted.lined accepted.processed
  · intro refused stored kept declared lined processed
    exact refused ⟨⟨stored, kept⟩, declared, lined, processed⟩

/-- The columns and the key of `audit_events`. -/
def auditAccepted (prevHash hash : PyStr) (rows : List AuditEvent) : Bool :=
  PyStr.fits 64 prevHash && PyStr.fits 64 hash && rows.all (fun other => decide (other.hash ≠ hash))

/-- An audit event is hashed before its table sees it. -/
theorem escapes_append {payload : Value} (stated : payload.WellFormed) {rows : List AuditEvent}
    {prevHash : PyStr} {next : AuditEvent → Result α} {holds : Prop}
    (later : ∀ event, Escapes (next event) ↔ ¬ holds) :
    Escapes (Audit.append env occasion.time (py "declaration.received") payload prevHash auditId rows >>=
        next) ↔
      ∃ clean hash, payload.reparse = .ok clean ∧
        Audit.chainHash env prevHash (py "declaration.received") clean
          (Datetime.isoMicros occasion.time) = .ok hash ∧
        ¬ (auditAccepted prevHash hash rows = true ∧ (∃ stored, env.jsonb clean = some stored) ∧ holds) := by
  have name : PyStr.fits 64 (py "declaration.received") = true := by decide
  have refuses : ∀ clean hash, Escapes (Audit.insertAuditEvent env rows
      ⟨auditId, prevHash, hash, py "declaration.received", clean, occasion.time⟩ >>= next) ↔
      ¬ (auditAccepted prevHash hash rows = true ∧ (∃ stored, env.jsonb clean = some stored) ∧ holds) := by
    intro clean hash
    rw [Audit.insertAuditEvent]
    simp only [bind_assoc, escapes_constrained, escapes_stored, Result.ok_bind, later, name,
      Bool.and_true, auditAccepted]
    constructor
    · rintro refused ⟨accepted, ⟨stored, kept⟩, held⟩
      exact refused accepted stored kept held
    · intro refused accepted stored kept held
      exact refused ⟨accepted, ⟨stored, kept⟩, held⟩
  rw [Audit.append, bind_assoc, escapes_after (reparse_contained stated)]
  constructor
  · rintro ⟨clean, parsed, raised⟩
    rw [bind_assoc, escapes_after (chainHash_contained (Value.reparse_wellFormed parsed))] at raised
    obtain ⟨hash, hashed, raised⟩ := raised
    exact ⟨clean, hash, parsed, hashed, (refuses clean hash).mp raised⟩
  · rintro ⟨clean, hash, parsed, hashed, refused⟩
    refine ⟨clean, parsed, ?_⟩
    rw [bind_assoc, escapes_after (chainHash_contained (Value.reparse_wellFormed parsed))]
    exact ⟨hash, hashed, (refuses clean hash).mpr refused⟩

end Tables

section Messages

variable {envelope resource : List (Key × Value)} {eventId : Value} {eventType : PyStr} {rows : List Value}

/-- The envelope passes every check before the database is asked. -/
structure Verified (loads : Loads) (directory : KeyDirectory) (envelope resource : List (Key × Value))
    (eventId : Value) (eventType : PyStr) (rows : List Value) : Prop where
  accepted : verifyEnvelope loads directory none true (.dict envelope) = .ok (.dict resource)
  required : ∀ name ∈ requiredFields, (Value.lookup (key name) resource).isSome = true
  named : Value.lookup (key "eventId") envelope = some eventId
  typed : Value.lookup (key "eventType") envelope = some (.str eventType)
  listed : Value.lookup (key "lineItems") resource = some (.list rows)
  present : rows ≠ []

/-- The identifier can be compared with the column: it is null or a text that
PostgreSQL takes. -/
def Askable (eventId : Value) : Prop :=
  eventId = .none ∨ ∃ text, eventId = .str text ∧ textColumn text = true

/-- The identifier is asked for and not found. -/
def Unprocessed (eventId : Value) (intake : Intake) : Prop :=
  Askable eventId ∧ ∀ row ∈ intake.processedEvents, eventId ≠ .str row.eventId

/-- Asking for a processed event escapes exactly for an identifier that cannot be asked for. -/
theorem escapes_processed : Escapes (processed eventId intake) ↔ ¬ Askable eventId := by
  cases eventId with
  | str text =>
    rw [processed, escapes_constrained]
    simp [Askable]
  | _ => simp [processed, Askable, caught]

/-- An event is unprocessed exactly when no row has its identifier. -/
theorem processed_false : processed eventId intake = .ok false ↔ Unprocessed eventId intake := by
  cases eventId with
  | str text =>
    rw [processed, Result.bind_ok]
    constructor
    · rintro ⟨_, storable, absent⟩
      rw [Db.constrain, Result.require_ok] at storable
      have unseen := List.any_eq_false.mp (Except.ok.inj absent)
      refine ⟨Or.inr ⟨text, rfl, storable⟩, fun row member same => ?_⟩
      exact unseen row member (decide_eq_true (Value.str.inj same).symm)
    · rintro ⟨askable, unseen⟩
      rcases askable with absent | ⟨_, ⟨⟩, storable⟩
      · cases absent
      · refine ⟨(), by rw [Db.constrain, Result.require_ok, storable], congrArg Except.ok ?_⟩
        rw [List.any_eq_false]
        exact fun row member same => unseen row member (by rw [of_decide_eq_true same])
  | _ => simp [processed, Unprocessed, Askable]

/-- The text of a field of the resource. -/
def fieldText (tables : Unicode) (resource : List (Key × Value)) (name : String) : PyStr :=
  (getOr resource name (.str [])).toStr tables

/-- The declaration that the event asks for. -/
def declarationRow (tables : Unicode) (occasion : Occasion) (resource : List (Key × Value))
    (eventId : PyStr) : Declaration where
  declarationRef := fieldText tables resource "declarationRef"
  consigneeTin := fieldText tables resource "consigneeTin"
  consigneeName := fieldText tables resource "consigneeName"
  sourceEventId := eventId
  occurredAt := occasion.time
  receivedAt := occasion.time

/-- The payload of the audit event of the envelope. -/
def payloadOf (tables : Unicode) (envelope resource : List (Key × Value)) (eventId : Value) : Value :=
  received (fieldText tables resource "declarationRef") eventId (getOr envelope "producer" (.str []))

/-- Every table accepts its rows of the event: the audit event with its payload
and hash, and what the flush writes under a text as identifier. -/
structure Stored (env : Env) (occasion : Occasion) (envelope resource : List (Key × Value))
    (eventId : Value) (eventType : PyStr) (lines : List LineItem) (clean : Value) (hash : PyStr)
    (intake : Intake) : Prop where
  audited : auditAccepted (Audit.latestHash intake.auditEvents) hash intake.auditEvents = true
  payload : ∃ stored, env.jsonb clean = some stored
  flushed : ∃ text, eventId = .str text ∧ Accepted env (.dict envelope)
    (declarationRow env.unicode occasion resource text) lines ⟨text, eventType⟩ intake

/-- The audit payload of the consumer is well formed. -/
theorem received_wellFormed {declarationRef : PyStr} {producer : Value} (identifier : eventId.WellFormed)
    (produced : producer.WellFormed) : (received declarationRef eventId producer).WellFormed := by
  have names : receivedKeys.Nodup := by decide
  refine Value.wellFormed_dict.mpr ⟨names, ?_⟩
  intro member listed
  simp only [List.map_cons, List.map_nil, List.mem_cons, List.not_mem_nil, or_false] at listed
  rcases listed with rfl | rfl | rfl
  · exact ⟨⟨_, rfl⟩, trivial⟩
  · exact ⟨⟨_, rfl⟩, identifier⟩
  · exact ⟨⟨_, rfl⟩, produced⟩

/-- The audit payload of an envelope is well formed. -/
theorem payloadOf_wellFormed {tables : Unicode} (stated : (Value.dict envelope).WellFormed)
    (named : Value.lookup (key "eventId") envelope = some eventId) :
    (payloadOf tables envelope resource eventId).WellFormed := by
  apply received_wellFormed (Value.wellFormed_lookup stated named)
  rw [getOr]
  cases produced : Value.lookup (key "producer") envelope with
  | none => trivial
  | some producer => exact Value.wellFormed_lookup stated produced

/-- What the tables refuse once the audit event is hashed. -/
theorem escapes_recorded {lines : List LineItem} (event : AuditEvent) :
    Escapes (textOf "declarations" eventId >>= fun text =>
        textOf "processed_events" (.str eventType) >>= fun eventType =>
          flush env occasion (.dict envelope) text eventType
            (fieldText env.unicode resource "declarationRef")
            (fieldText env.unicode resource "consigneeTin")
            (fieldText env.unicode resource "consigneeName") lines event intake) ↔
      ¬ ∃ text, eventId = .str text ∧ Accepted env (.dict envelope)
        (declarationRow env.unicode occasion resource text) lines ⟨text, eventType⟩ intake := by
  cases eventId with
  | str text =>
    rw [textOf, textOf, Result.ok_bind, Result.ok_bind, escapes_flush]
    constructor
    · rintro refused ⟨_, ⟨⟩, accepted⟩
      exact refused accepted
    · exact fun refused accepted => refused ⟨text, rfl, accepted⟩
  | _ => simp [textOf, caught]

/-- A new event escapes at an entry that stops the loop, or at its tables. -/
theorem escapes_applyNew (stated : (Value.dict envelope).WellFormed)
    (verified : Verified loads directory envelope resource eventId eventType rows) :
    Escapes (applyNew env occasion auditId envelope resource eventId rows intake) ↔
      Escapes (readLines env.unicode rows) ∨ ∃ lines, readLines env.unicode rows = .ok lines ∧
        ∃ clean hash, (payloadOf env.unicode envelope resource eventId).reparse = .ok clean ∧
          Audit.chainHash env (Audit.latestHash intake.auditEvents) (py "declaration.received") clean
            (Datetime.isoMicros occasion.time) = .ok hash ∧
          ¬ Stored env occasion envelope resource eventId eventType lines clean hash intake := by
  obtain ⟨declarationRef, referenced⟩ :=
    Option.isSome_iff_exists.mp (verified.required "declarationRef" (by decide))
  obtain ⟨consigneeTin, consigned⟩ :=
    Option.isSome_iff_exists.mp (verified.required "consigneeTin" (by decide))
  have reference : declarationRef.toStr env.unicode = fieldText env.unicode resource "declarationRef" := by
    rw [fieldText, getOr, referenced]
    rfl
  have tin : consigneeTin.toStr env.unicode = fieldText env.unicode resource "consigneeTin" := by
    rw [fieldText, getOr, consigned]
    rfl
  rw [applyNew, subscript_ok.mpr referenced, subscript_ok.mpr consigned, Result.ok_bind, Result.ok_bind,
    escapes_bind, subscript_ok.mpr verified.typed, reference, tin]
  refine or_congr Iff.rfl (exists_congr fun lines => and_congr Iff.rfl ?_)
  rw [Result.ok_bind]
  refine (escapes_append (payloadOf_wellFormed stated verified.named)
    (fun event => escapes_recorded event)).trans ?_
  refine exists_congr fun clean => exists_congr fun hash => and_congr Iff.rfl (and_congr Iff.rfl ?_)
  refine not_congr ⟨?_, ?_⟩
  · exact fun ⟨audited, payload, flushed⟩ => ⟨audited, payload, flushed⟩
  · exact fun stored => ⟨stored.audited, stored.payload, stored.flushed⟩

/-- The messages on which an exception escapes. -/
inductive Poison (env : Env) (loads : Loads) (directory : KeyDirectory) (decoder : Decoder)
    (occasion : Occasion) (message : Bytes) (intake : Intake) : Prop
  /-- Decoding raises something else than a `ValueError`. -/
  | undecodable {problem : PyError} (raised : decoder.decode message = .error problem)
      (escaping : caught problem = false)
  /-- The checks pass up to a provenance that is no object; no signature is needed. -/
  | misplaced {envelope : List (Key × Value)} (decoded : decoder.decode message = .ok (.dict envelope))
      (shaped : Shaped envelope) (misplaced : Misplaced envelope)
  /-- The identifier is no text that the database takes, nor null. -/
  | unaskable {envelope resource : List (Key × Value)} {eventId : Value} {eventType : PyStr}
      {rows : List Value} (decoded : decoder.decode message = .ok (.dict envelope))
      (verified : Verified loads directory envelope resource eventId eventType rows)
      (refused : ¬ Askable eventId)
  /-- The first entry that is not read is no object or has a field of a wrong type. -/
  | unreadable {envelope resource : List (Key × Value)} {eventId : Value} {eventType : PyStr}
      {before after : List Value} {raw : Value} {lines : List LineItem}
      (decoded : decoder.decode message = .ok (.dict envelope))
      (verified : Verified loads directory envelope resource eventId eventType (before ++ raw :: after))
      (unprocessed : Unprocessed eventId intake) (readable : readLines env.unicode before = .ok lines)
      (stops : Stops env.unicode raw)
  /-- All entries are read and the audit event is hashed, but a table refuses. -/
  | refused {envelope resource : List (Key × Value)} {eventId : Value} {eventType : PyStr}
      {rows : List Value} {lines : List LineItem} {clean : Value} {hash : PyStr}
      (decoded : decoder.decode message = .ok (.dict envelope))
      (verified : Verified loads directory envelope resource eventId eventType rows)
      (unprocessed : Unprocessed eventId intake) (readable : readLines env.unicode rows = .ok lines)
      (parsed : (payloadOf env.unicode envelope resource eventId).reparse = .ok clean)
      (hashed : Audit.chainHash env (Audit.latestHash intake.auditEvents) (py "declaration.received") clean
        (Datetime.isoMicros occasion.time) = .ok hash)
      (refused : ¬ Stored env occasion envelope resource eventId eventType lines clean hash intake)

/-- A verified envelope names its event type. -/
theorem eventType_typed {members : List (Key × Value)} {resource : Value}
    (accepted : verifyEnvelope loads directory none true (.dict members) = .ok resource) :
    ∃ eventType, Value.lookup (key "eventType") members = some (.str eventType) := by
  obtain ⟨_, _, accepted⟩ := Result.bind_ok.mp accepted
  obtain ⟨eventType, typed, _⟩ := Result.bind_ok.mp accepted
  unfold eventTypeOf at typed
  split at typed
  case _ stated found => exact ⟨stated, found⟩
  case _ => cases typed

/-- The first steps of a verified message. -/
theorem apply_verified (verified : Verified loads directory envelope resource eventId eventType rows) :
    applyDeclarationEnvelope env loads directory occasion auditId (.dict envelope) intake =
      (processed eventId intake >>= fun seen => if seen then .ok (.duplicate, intake) else do
        let intake ← applyNew env occasion auditId envelope resource eventId rows intake
        .ok (.applied, intake)) := by
  obtain ⟨first, rest, rfl⟩ := List.exists_cons_of_ne_nil verified.present
  have required : requiredFields.all (fun name =>
      (Value.lookup (key name) resource).isSome) = true := List.all_eq_true.mpr verified.required
  rw [applyDeclarationEnvelope, verified.accepted, Result.ok_bind, membersOf, required]
  rw [Result.require, if_pos rfl, Result.ok_bind, membersOf, apply, subscript_ok.mpr verified.named,
    Result.ok_bind, lineItemsOf, subscript_ok.mpr verified.listed, Result.ok_bind]
  rfl

/-- The line items are a list that is not empty. -/
theorem lineItemsOf_ok : lineItemsOf resource = .ok rows ↔
    Value.lookup (key "lineItems") resource = some (.list rows) ∧ rows ≠ [] := by
  rw [lineItemsOf, Result.bind_ok]
  constructor
  · rintro ⟨stated, listed, present⟩
    rw [subscript_ok] at listed
    split at present <;> cases present
    exact ⟨listed, List.cons_ne_nil _ _⟩
  · rintro ⟨listed, present⟩
    obtain ⟨first, rest, rfl⟩ := List.exists_cons_of_ne_nil present
    exact ⟨_, subscript_ok.mpr listed, rfl⟩

/-- Missing line items raise what is caught. -/
theorem lineItemsOf_contained : ¬ Escapes (lineItemsOf resource) := by
  apply contained_bind (subscript_contained _ _)
  intro lines
  split <;> simp [caught]

/-- What an exception that escapes says of the message. -/
theorem poison_of_escapes {message : Bytes}
    (raised : Escapes (handle env loads directory decoder occasion auditId message intake)) :
    Poison env loads directory decoder occasion message intake := by
  rw [handle, escapes_bind] at raised
  rcases raised with ⟨problem, raised, escaping⟩ | ⟨value, decoded, raised⟩
  · exact .undecodable raised escaping
  have stated := decoder.wellFormed message value decoded
  rw [applyDeclarationEnvelope, escapes_bind, escapes_verifyEnvelope stated] at raised
  rcases raised with ⟨envelope, rfl, shaped, misplaced⟩ | ⟨checked, accepted, raised⟩
  · exact .misplaced decoded shaped misplaced
  obtain ⟨resource, _, rfl⟩ := verifyEnvelope_resource accepted
  cases value with
  | dict envelope =>
    rw [escapes_guard rfl, apply, escapes_after (subscript_contained _ _)] at raised
    obtain ⟨required, eventId, named, raised⟩ := raised
    rw [escapes_after lineItemsOf_contained] at raised
    obtain ⟨rows, listed, raised⟩ := raised
    obtain ⟨listed, present⟩ := lineItemsOf_ok.mp listed
    obtain ⟨eventType, typed⟩ := eventType_typed accepted
    have verified : Verified loads directory envelope resource eventId eventType rows :=
      ⟨accepted, List.all_eq_true.mp required, subscript_ok.mp named, typed, listed, present⟩
    rw [escapes_bind, escapes_processed] at raised
    rcases raised with refused | ⟨seen, asked, raised⟩
    · exact .unaskable decoded verified refused
    cases seen with
    | true => exact absurd raised escapes_ok
    | false =>
      rw [if_neg Bool.false_ne_true, escapes_bind, membersOf, membersOf, escapes_applyNew stated verified,
        escapes_readLines] at raised
      have unprocessed := processed_false.mp asked
      rcases raised with (⟨before, raw, after, lines, rfl, readable, stops⟩ |
        ⟨lines, readable, clean, hash, parsed, hashed, refused⟩) | ⟨_, _, done⟩
      · exact .unreadable decoded verified unprocessed readable stops
      · exact .refused decoded verified unprocessed readable parsed hashed refused
      · exact absurd done escapes_ok
  | _ => cases accepted

/-- A message that poisons the consumer raises an exception that escapes. -/
theorem Poison.escapes {message : Bytes} (poison : Poison env loads directory decoder occasion message intake) :
    Escapes (handle env loads directory decoder occasion auditId message intake) := by
  have decoded_handle : ∀ envelope, decoder.decode message = .ok envelope →
      handle env loads directory decoder occasion auditId message intake =
        applyDeclarationEnvelope env loads directory occasion auditId envelope intake := by
    intro envelope decoded
    rw [handle, decoded, Result.ok_bind]
  have unprocessed_handle : ∀ {envelope resource : List (Key × Value)} {eventId : Value}
      {eventType : PyStr} {rows : List Value}, decoder.decode message = .ok (.dict envelope) →
      Verified loads directory envelope resource eventId eventType rows → Unprocessed eventId intake →
      Escapes (applyNew env occasion auditId envelope resource eventId rows intake) →
      Escapes (handle env loads directory decoder occasion auditId message intake) := by
    intro envelope resource eventId eventType rows decoded verified unprocessed raised
    rw [decoded_handle _ decoded, apply_verified verified, processed_false.mpr unprocessed,
      Result.ok_bind, if_neg Bool.false_ne_true, escapes_bind]
    exact Or.inl raised
  cases poison with
  | undecodable raised escaping =>
    rw [handle, escapes_bind]
    exact Or.inl ⟨_, raised, escaping⟩
  | misplaced decoded shaped misplaced =>
    rw [decoded_handle _ decoded, applyDeclarationEnvelope, escapes_bind,
      escapes_verifyEnvelope (decoder.wellFormed _ _ decoded)]
    exact Or.inl ⟨_, rfl, shaped, misplaced⟩
  | unaskable decoded verified refused =>
    rw [decoded_handle _ decoded, apply_verified verified, escapes_bind, escapes_processed]
    exact Or.inl refused
  | unreadable decoded verified unprocessed readable stops =>
    apply unprocessed_handle decoded verified unprocessed
    rw [escapes_applyNew (decoder.wellFormed _ _ decoded) verified, escapes_readLines]
    exact Or.inl ⟨_, _, _, _, rfl, readable, stops⟩
  | refused decoded verified unprocessed readable parsed hashed refused =>
    apply unprocessed_handle decoded verified unprocessed
    rw [escapes_applyNew (decoder.wellFormed _ _ decoded) verified]
    exact Or.inr ⟨_, readable, _, _, parsed, hashed, refused⟩

/-- An iteration commits the offset, and changes nothing or applies the message,
exactly when the message is no poison in the state it meets. -/
theorem survives_iff_not_poison {message : Bytes} :
    Survives env loads directory decoder occasion auditId message intake ↔
      ¬ Poison env loads directory decoder occasion message intake := by
  rw [survives_iff]
  exact not_congr ⟨poison_of_escapes, Poison.escapes⟩

end Messages

section Sample

/-- An envelope without a signature, whose provenance is an array. -/
def listedProvenance : List (Key × Value) :=
  [(key "envelopeVersion", Value.literal "1.0"),
    (key "eventType", Value.literal "declarations.imported.v1"),
    (key "fhir", .dict
      [(key "resourceType", Value.literal "Bundle"),
        (key "type", Value.literal "message"),
        (key "entry", .list [.dict [(key "resource", .dict [])]])]),
    (key "provenance", .list [])]

/-- An unsigned message whose provenance is a list. -/
def listedMessage : Bytes := Outbox.asciiBytes
  (py "\x7b\"envelopeVersion\":\"1.0\",\"eventType\":\"declarations.imported.v1\"," ++
    py "\"fhir\":\x7b\"resourceType\":\"Bundle\",\"type\":\"message\"," ++
    py "\"entry\":[\x7b\"resource\":\x7b\x7d\x7d]\x7d,\"provenance\":[]\x7d")

/-- A decoder that knows one message. -/
def Decoder.single (known : Bytes) (meaning : Value) (plain : meaning.plain = true) : Decoder where
  decode message := if message = known then .ok meaning else .error .valueError
  wellFormed message envelope decoded := by
    split at decoded <;> cases decoded
    exact Value.plain_wellFormed plain

/-- A decoder that knows one message decodes it. -/
theorem single_decoded (known : Bytes) (meaning : Value) (plain : meaning.plain = true) :
    (Decoder.single known meaning plain).decode known = .ok meaning := if_pos rfl

/-- Not every message is survived: nobody has to sign the one that is not. -/
theorem unsigned_message_stops : ¬ ∀ (env : Env) (loads : Loads) (directory : KeyDirectory)
    (decoder : Decoder) (occasion : Occasion) (auditId : Nat) (message : Bytes) (intake : Intake),
    Survives env loads directory decoder occasion auditId message intake := by
  intro claimed
  have plain : (Value.dict listedProvenance).plain = true := by decide
  have survives := claimed .sample (fun _ => none) (fun _ => none) (.single listedMessage _ plain)
    ⟨⟨739828 * Datetime.microsPerDay, by decide, by decide⟩, 0⟩ 0 listedMessage ⟨.empty, [], []⟩
  refine survives_iff.mp survives (Poison.escapes (.misplaced (single_decoded _ _ plain) ?_ ?_))
  · exact ⟨by decide, py "declarations.imported.v1", by decide, [], rfl, by decide⟩
  · exact ⟨.list [], rfl, fun members same => by cases same⟩

end Sample

end TaxStamps.Consumer
