import TaxStamps.Python.Value

/-!
# Request bodies

`schemas.py`. A body carries the bounds that its schema enforces. The line items
of a declaration event have no schema: the consumer converts what the envelope
holds and leaves the bounds to the database.
-/

namespace TaxStamps

/-- A text whose length is within the bounds of its field. A field with a bound reads its
text as Unicode scalar values, so a lone surrogate is refused. -/
def PyStr.sized (least most : Nat) (text : PyStr) : Bool :=
  decide (least ≤ text.length ∧ text.length ≤ most) && text.all Code.isScalar

/-- The data of `DeclarationLineIn`. -/
structure LineItem where
  hsCode : PyStr
  description : PyStr
  quantity : Int
  unit : PyStr
  customsValueKobo : Int
  stampsRequired : Int

/-- The fields of `DeclarationLineIn` are valid. -/
def LineItem.accepted (item : LineItem) : Bool :=
  PyStr.sized 2 16 item.hsCode && decide (0 ≤ item.quantity) &&
    decide (item.unit ∈ [py "STICK", py "LITRE", py "UNIT"]) && decide (0 ≤ item.customsValueKobo) &&
    decide (0 ≤ item.stampsRequired)

/-- `DeclarationIn`. -/
structure DeclarationIn where
  declarationRef : PyStr
  consigneeTin : PyStr
  consigneeName : PyStr
  lines : List LineItem
  reference_length : PyStr.sized 3 64 declarationRef = true
  tin_length : PyStr.sized 6 32 consigneeTin = true
  lines_accepted : lines ≠ [] ∧ lines.all LineItem.accepted = true

/-- What `_apply` reads from a verified declaration envelope. -/
structure DeclarationEvent where
  eventId : PyStr
  declarationRef : PyStr
  consigneeTin : PyStr
  consigneeName : PyStr
  lineItems : List LineItem
  lines_present : lineItems ≠ []

/-- `AssessmentCreateIn`. -/
structure AssessmentCreateIn where
  declarationRef : PyStr
  reference_length : PyStr.sized 3 64 declarationRef = true

/-- `ReceiptIn`. -/
structure ReceiptIn where
  paymentIntentId : Nat
  externalReference : PyStr
  amountKobo : Int
  currency : PyStr
  reference_length : PyStr.sized 4 128 externalReference = true
  amount_natural : 0 ≤ amountKobo
  currency_length : PyStr.sized 3 3 currency = true

/-- `InspectionIn`. -/
structure InspectionIn where
  defectives : Int
  defectives_natural : 0 ≤ defectives

/-- The chunk size of `IssueIn`. -/
structure ChunkSize where
  value : Int
  positive : 1 ≤ value
  bounded : value ≤ 10000

/-- `VoidIn`. -/
structure VoidIn where
  reason : PyStr
  reason_length : 3 ≤ reason.length ∧ reason.all Code.isScalar = true

/-- A micro-degree coordinate within the bounds of its field. -/
def microsWithin (bound : Int) (value : Option Int) : Bool :=
  value.all (fun value => decide (-bound ≤ value ∧ value ≤ bound))

/-- A body of JSON: the credential is any JSON object. -/
structure VerifyIn where
  serial : PyStr
  credential : Option (List (Key × Value))
  latMicros : Option Int
  longMicros : Option Int
  serial_length : PyStr.sized 1 64 serial = true
  credential_json : ∀ members, credential = some members → (Value.dict members).WellFormed
  lat_bounded : microsWithin 90000000 latMicros = true
  long_bounded : microsWithin 180000000 longMicros = true

/-- `PublicVerifyIn`: a serial or a credential is there. -/
structure PublicVerifyIn where
  serial : Option PyStr
  credential : Option (List (Key × Value))
  latMicros : Option Int
  longMicros : Option Int
  serial_length : serial.all (PyStr.sized 0 64) = true
  credential_json : ∀ members, credential = some members → (Value.dict members).WellFormed
  lat_bounded : microsWithin 90000000 latMicros = true
  long_bounded : microsWithin 180000000 longMicros = true
  something : (!(serial.getD []).isEmpty || credential.any (fun members => !members.isEmpty)) = true

/-- An authenticated verifier: an identifier that the credential table holds. -/
structure Verifier where
  verifierId : PyStr
  named : verifierId ≠ []
  stored : PyStr.fits 128 verifierId = true

end TaxStamps
