import TaxStamps.Events.Consumer

/-!
# The declaration route from its JSON body on

`POST /declarations` as a client reaches it: the parsed body goes through the
schemas of `schemas.py`, then `create_declaration` writes the declaration and its
audit event in one transaction.

How pydantic reads one field is a parameter, with the laws the schemas rely on.
The principal is authorised already, and the request carries no idempotency key.
-/

namespace TaxStamps

/-- The number is integral, and which integer it is. -/
def PyFloat.whole? : PyFloat → Option Int
  | .finite negative rep =>
    if rep.magnitude.den = 1 then
      some (if negative then -(rep.integerPart : Int) else rep.integerPart)
    else none
  | _ => none

namespace Api

/-- A JSON number as `json.loads` reads it. -/
inductive Number
  | integer (value : Int)
  | float (value : PyFloat)

/-- The JSON value of a number. -/
def Number.value : Number → Value
  | .integer value => .int value
  | .float value => .float value

/-- The integer that an integral number denotes. -/
def Number.whole? : Number → Option Int
  | .integer value => some value
  | .float value => value.whole?

/-- How pydantic reads a `str` and an `int` field. -/
structure Pydantic where
  text : Value → Option PyStr
  int : Value → Option Int
  text_accepts : ∀ value, textColumn value = true → text (.str value) = some value
  text_keeps : ∀ value read, text (.str value) = some read → read = value
  int_accepts : ∀ number whole, Number.whole? number = some whole → bigIntegerColumn whole = true →
    int number.value = some whole
  int_keeps : ∀ number read, int (Number.value number) = some read → number.whole? = some read

/-- A reading that takes every text and every integral number. -/
def Pydantic.sample : Pydantic where
  text
    | .str value => some value
    | _ => none
  int
    | .int value => some value
    | .float value => value.whole?
    | _ => none
  text_accepts _ _ := rfl
  text_keeps _ _ read := (Option.some.inj read).symm
  int_accepts number _ whole _ := by
    cases number <;> exact whole
  int_keeps number _ read := by
    cases number <;> exact read

section Schemas

/-- `extra="forbid"`: an object with no member beside the fields. -/
def membersIn (fields : List String) : Value → Option (List (Key × Value))
  | .dict members =>
    if members.all (fun member => decide (member.1 ∈ fields.map key)) then some members else none
  | _ => none

/-- A field with a default. -/
def defaulted {α : Type} (read : Value → Option α) (default : α) : Option Value → Option α
  | none => some default
  | some value => read value

/-- A field of a list. -/
def listField {α : Type} (read : Value → Option α) : Value → Option (List α)
  | .list items => items.mapM read
  | _ => none

variable (pydantic : Pydantic)

/-- The names of `DeclarationLineIn`. -/
def lineFields : List String :=
  ["hs_code", "description", "quantity", "unit", "customs_value_kobo", "stamps_required"]

/-- `DeclarationLineIn.model_validate`. -/
def validateLine (payload : Value) : Option LineItem := do
  let members ← membersIn lineFields payload
  let hsCode ← (Value.lookup (key "hs_code") members).bind pydantic.text
  let description ← defaulted pydantic.text [] (Value.lookup (key "description") members)
  let quantity ← (Value.lookup (key "quantity") members).bind pydantic.int
  let unit ← (Value.lookup (key "unit") members).bind pydantic.text
  let customsValueKobo ← (Value.lookup (key "customs_value_kobo") members).bind pydantic.int
  let stampsRequired ← (Value.lookup (key "stamps_required") members).bind pydantic.int
  Option.guard LineItem.accepted
    { hsCode := hsCode
      description := description
      quantity := quantity
      unit := unit
      customsValueKobo := customsValueKobo
      stampsRequired := stampsRequired }

/-- The constraints of the fields of `DeclarationIn`. -/
def declarationIn? (declarationRef consigneeTin consigneeName : PyStr) (lines : List LineItem) :
    Option DeclarationIn :=
  if valid : PyStr.sized 3 64 declarationRef = true ∧ PyStr.sized 6 32 consigneeTin = true ∧
      lines ≠ [] ∧ lines.all LineItem.accepted = true then
    some ⟨declarationRef, consigneeTin, consigneeName, lines, valid.1, valid.2.1, valid.2.2⟩
  else none

/-- The names of `DeclarationIn`. -/
def declarationFields : List String := ["declaration_ref", "consignee_tin", "consignee_name", "lines"]

/-- `DeclarationIn.model_validate`. -/
def validateDeclaration (payload : Value) : Option DeclarationIn := do
  let members ← membersIn declarationFields payload
  let declarationRef ← (Value.lookup (key "declaration_ref") members).bind pydantic.text
  let consigneeTin ← (Value.lookup (key "consignee_tin") members).bind pydantic.text
  let consigneeName ← defaulted pydantic.text [] (Value.lookup (key "consignee_name") members)
  let lines ← (Value.lookup (key "lines") members).bind (listField (validateLine pydantic))
  declarationIn? declarationRef consigneeTin consigneeName lines

end Schemas

section Route

/-- The payload of the audit event. -/
def receivedFrom (declarationRef consigneeTin subject : PyStr) : Value :=
  .object [("declarationRef", .str declarationRef), ("consigneeTin", .str consigneeTin),
    ("principal", .str subject)]

/-- `POST /declarations` by an authorised principal, on the tables that the
consumer writes to. -/
def postDeclaration (env : Env) (pydantic : Pydantic) (occasion : Occasion) (auditId : Nat)
    (subject : PyStr) (payload : Value) (tables : Consumer.Intake) : Result Consumer.Intake :=
  match validateDeclaration pydantic payload with
  | none => .error (.httpException 422 [])
  | some body => do
    let db ← createDeclaration occasion subject body tables.db
    let event ← Audit.append env occasion.time (py "declaration.received")
      (receivedFrom body.declarationRef body.consigneeTin subject)
      (Audit.latestHash tables.auditEvents) auditId tables.auditEvents
    .ok ⟨db, tables.processedEvents, tables.auditEvents ++ [event]⟩

end Route

end Api

end TaxStamps
