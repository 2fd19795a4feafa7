import TaxStamps.Api.Routes
import TaxStamps.Events.Envelope
import TaxStamps.Python.Repr
import TaxStamps.Services.Audit

/-!
# The declaration consumer

`consumer.py`: `_apply`, `apply_declaration_envelope` with a session of its own,
and one iteration of `consume_forever`. A declaration, its lines, the processed
event and the audit event are written in one transaction; the offset is
committed after it, or after the rejection.

`json.loads` of the decoded message is a parameter that yields JSON values. The
recursion limit of the interpreter is not modelled.
-/

namespace TaxStamps.Consumer

open Envelope

/-- A row of `processed_events`. -/
structure ProcessedEvent where
  eventId : PyStr
  eventType : PyStr

/-- The tables of the consumer. -/
structure Intake where
  db : Db
  processedEvents : List ProcessedEvent
  auditEvents : List AuditEvent

/-- What became of an envelope. -/
inductive Disposition
  | applied | duplicate
deriving DecidableEq, Repr

section Conversions

/-- `int(value)`. -/
def intOf (tables : Unicode) : Value → Result Int
  | .float (.finite negative rep) =>
    .ok (if negative then -(rep.integerPart : Int) else rep.integerPart)
  | other => Verify.intOf tables other

/-- `members[name]`. -/
def subscript (members : List (Key × Value)) (name : String) : Result Value :=
  match Value.lookup (key name) members with
  | some value => .ok value
  | none => .error .keyError

/-- `members.get(name, default)`. -/
def getOr (members : List (Key × Value)) (name : String) (default : Value) : Value :=
  (Value.lookup (key name) members).getD default

/-- The members of an object. -/
def membersOf : Value → List (Key × Value)
  | .dict members => members
  | _ => []

/-- The line item of a raw entry. Only an object has string subscripts. -/
def readLine (tables : Unicode) : Value → Result LineItem
  | .dict raw => do
    let hsCode ← subscript raw "hsCode"
    let stated ← subscript raw "quantity"
    let quantity ← intOf tables stated
    let unit ← subscript raw "unit"
    let customsValueKobo ← intOf tables (getOr raw "customsValueKobo" (.int 0))
    let stampsRequired ← intOf tables (getOr raw "stampsRequired" stated)
    .ok
      { hsCode := hsCode.toStr tables
        description := (getOr raw "description" (.str [])).toStr tables
        quantity := quantity
        unit := unit.toStr tables
        customsValueKobo := customsValueKobo
        stampsRequired := stampsRequired }
  | _ => .error .typeError

/-- The loop over the raw entries. -/
def readLines (tables : Unicode) : List Value → Result (List LineItem)
  | [] => .ok []
  | raw :: rest => do
    let line ← readLine tables raw
    let lines ← readLines tables rest
    .ok (line :: lines)

/-- The raw entries of a resource: a non-empty array. -/
def lineItemsOf (resource : List (Key × Value)) : Result (List Value) := do
  let lines ← subscript resource "lineItems"
  match lines with
  | .list (first :: rest) => .ok (first :: rest)
  | _ => .error .valueError

end Conversions

section Apply

variable (env : Env)

/-- `SELECT ... WHERE event_id = :event_id`. Null is compared with `IS NULL`;
a value that is no text cannot be compared with the column. -/
def processed (eventId : Value) (intake : Intake) : Result Bool :=
  match eventId with
  | .none => .ok false
  | .str text => do
    Db.constrain "processed_events" (textColumn text)
    .ok (intake.processedEvents.any (fun row => decide (row.eventId = text)))
  | _ => .error (.dbApiError (py "processed_events"))

/-- The payload of the audit event. -/
def received (declarationRef : PyStr) (eventId producer : Value) : Value :=
  .object [("declarationRef", .str declarationRef), ("eventId", eventId), ("producer", producer)]

/-- A column that takes a text and no null. -/
def textOf (table : String) : Value → Result PyStr
  | .str text => .ok text
  | _ => .error (.dbApiError (py table))

/-- `s.add(ProcessedEvent(...))`. -/
def insertProcessedEvent (row : ProcessedEvent) (rows : List ProcessedEvent) :
    Result (List ProcessedEvent) := do
  Db.constrain "processed_events" (PyStr.fits 128 row.eventId && PyStr.fits 128 row.eventType &&
    rows.all (fun other => decide (other.eventId ≠ row.eventId)))
  .ok (rows ++ [row])

/-- The flush of a new event. The envelope of a declaration is not read again,
so the database of the model does not keep it. -/
def flush (occasion : Occasion) (envelope : Value) (eventId eventType : PyStr)
    (declarationRef consigneeTin consigneeName : PyStr) (lines : List LineItem) (event : AuditEvent)
    (intake : Intake) : Result Intake := do
  let _ ← Db.jsonbColumn env "declarations" envelope
  let db ← Api.addDeclaration occasion declarationRef consigneeTin consigneeName eventId lines intake.db
  let processedEvents ← insertProcessedEvent ⟨eventId, eventType⟩ intake.processedEvents
  .ok ⟨db, processedEvents, intake.auditEvents ++ [event]⟩

/-- `_apply` of an event that was not processed. The audit event is hashed
before anything is flushed. -/
def applyNew (occasion : Occasion) (auditId : Nat) (envelope resource : List (Key × Value))
    (eventId : Value) (rows : List Value) (intake : Intake) : Result Intake := do
  let declarationRef ← subscript resource "declarationRef"
  let consigneeTin ← subscript resource "consigneeTin"
  let lines ← readLines env.unicode rows
  let eventType ← subscript envelope "eventType"
  let event ← Audit.append env occasion.time (py "declaration.received")
    (received (declarationRef.toStr env.unicode) eventId (getOr envelope "producer" (.str [])))
    (Audit.latestHash intake.auditEvents) auditId intake.auditEvents
  let eventId ← textOf "declarations" eventId
  let eventType ← textOf "processed_events" eventType
  flush env occasion (.dict envelope) eventId eventType (declarationRef.toStr env.unicode)
    (consigneeTin.toStr env.unicode) ((getOr resource "consigneeName" (.str [])).toStr env.unicode)
    lines event intake

/-- `_apply`. -/
def apply (occasion : Occasion) (auditId : Nat) (envelope resource : List (Key × Value))
    (intake : Intake) : Result (Disposition × Intake) := do
  let eventId ← subscript envelope "eventId"
  let rows ← lineItemsOf resource
  let seen ← processed eventId intake
  if seen then .ok (.duplicate, intake)
  else do
    let intake ← applyNew env occasion auditId envelope resource eventId rows intake
    .ok (.applied, intake)

/-- `_REQUIRED_RESOURCE_FIELDS`. -/
def requiredFields : List String := ["declarationRef", "consigneeTin", "lineItems"]

/-- `apply_declaration_envelope` up to the commit. -/
def applyDeclarationEnvelope (loads : Loads) (directory : KeyDirectory) (occasion : Occasion)
    (auditId : Nat) (envelope : Value) (intake : Intake) : Result (Disposition × Intake) := do
  let resource ← verifyEnvelope loads directory none true envelope
  Result.require
    (requiredFields.all (fun name => (Value.lookup (key name) (membersOf resource)).isSome)) .valueError
  apply env occasion auditId (membersOf envelope) (membersOf resource) intake

end Apply

section Loop

/-- `json.loads(msg.value.decode("utf-8"))`, which yields JSON values. -/
structure Decoder where
  decode : Bytes → Result Value
  wellFormed : ∀ message envelope, decode message = .ok envelope → envelope.WellFormed

/-- `except (EnvelopeError, ValueError, KeyError)`. The service's own exceptions
are `ValueError`s. -/
def caught : PyError → Bool
  | .httpException _ _ => false
  | .dbApiError _ => false
  | .noResultFound => false
  | .attributeError => false
  | .typeError => false
  | .overflowError => false
  | _ => true

variable (env : Env) (loads : Loads) (directory : KeyDirectory) (decoder : Decoder)

/-- The `try` of an iteration, on a message. -/
def handle (occasion : Occasion) (auditId : Nat) (message : Bytes) (intake : Intake) :
    Result (Disposition × Intake) := do
  let envelope ← decoder.decode message
  applyDeclarationEnvelope env loads directory occasion auditId envelope intake

/-- One iteration of the loop: a disposition, or none for a rejection, and the
tables when the offset is committed. An error is an exception that ends the
loop with the offset where it was. -/
def iterate (occasion : Occasion) (auditId : Nat) (message : Bytes) (intake : Intake) :
    Result (Option Disposition × Intake) :=
  match handle env loads directory decoder occasion auditId message intake with
  | .ok (disposition, committed) => .ok (some disposition, committed)
  | .error problem => if caught problem then .ok (none, intake) else .error problem

end Loop

section Deliveries

/-- Where a crash interrupts a delivery. -/
inductive Crash
  | beforeCommit | beforeOffset
deriving DecidableEq

/-- A delivery of an envelope to the consumer. -/
structure Delivery where
  envelope : Value
  wellFormed : envelope.WellFormed
  occasion : Occasion
  auditId : Nat
  crash : Option Crash

variable (env : Env) (loads : Loads) (directory : KeyDirectory)

/-- The consumer's transaction for a delivery. -/
def Delivery.apply (delivery : Delivery) (intake : Intake) : Result (Disposition × Intake) :=
  applyDeclarationEnvelope env loads directory delivery.occasion delivery.auditId delivery.envelope intake

/-- The tables after a delivery. A transaction that is not committed leaves
nothing; a crash before the offset is committed does not undo it. -/
def receive (intake : Intake) (delivery : Delivery) : Intake :=
  match delivery.apply env loads directory intake with
  | .ok (_, committed) => if delivery.crash = some .beforeCommit then intake else committed
  | .error _ => intake

/-- A sequence of deliveries. -/
def run (deliveries : List Delivery) (intake : Intake) : Intake :=
  deliveries.foldl (receive env loads directory) intake

end Deliveries

end TaxStamps.Consumer
