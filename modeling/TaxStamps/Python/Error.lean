import TaxStamps.Python.Text

/-!
# Exceptions

One constructor for each exception class that the modelled code raises. The
service's own classes keep their reason code; the detail of an exception is kept
where some caller reads it. A violated database constraint surfaces as
`DBAPIError` with the table it belongs to.
-/

namespace TaxStamps

/-- The exceptions that the modelled code raises or lets through. -/
inductive PyError
  | assessmentError (reason detail : PyStr)
  | paymentError (reason detail : PyStr)
  | issuanceError (reason detail : PyStr)
  | verificationError (reason detail : PyStr)
  | journalError (text : PyStr)
  | statusListError_ (text : PyStr)
  | statusListError (reason : PyStr)
  | serialError (text : PyStr)
  | exciseError (text : PyStr)
  | moneyError (text : PyStr)
  | samplingError (text : PyStr)
  | canonicalizationError (text : PyStr)
  | vcError (reason : PyStr)
  | jwsError (reason detail : PyStr)
  | envelopeError (reason detail : PyStr)
  | httpException (status : Nat) (reason : PyStr)
  | dbApiError (table : PyStr)
  | noResultFound
  | unicodeEncodeError
  | attributeError
  | typeError
  | keyError
  | valueError
  | overflowError
deriving DecidableEq, Repr

/-- A value, or the exception that was raised. -/
abbrev Result := Except PyError

namespace Result

variable {α β : Type}

/-- A computation that continues succeeds only through an intermediate value. -/
theorem bind_ok {first : Result α} {next : α → Result β} {result : β} :
    (first >>= next) = .ok result ↔ ∃ value, first = .ok value ∧ next value = .ok result := by
  cases first <;> simp [bind, Except.bind]

/-- A value is handed on. -/
@[simp] theorem ok_bind (value : α) (next : α → Result β) :
    ((Except.ok value : Result α) >>= next) = next value := rfl

/-- An exception skips what follows. -/
@[simp] theorem error_bind (problem : PyError) (next : α → Result β) :
    ((Except.error problem : Result α) >>= next) = .error problem := rfl

/-- Returning a value raises nothing. -/
@[simp] theorem pure_ok (value : α) : (pure value : Result α) = .ok value := rfl

/-- Throwing is raising. -/
@[simp] theorem throw_error (problem : PyError) : (throw problem : Result α) = .error problem := rfl

/-- A result has a value exactly when it is that value. -/
theorem toOption_some {result : Result α} {value : α} :
    result.toOption = some value ↔ result = .ok value := by
  cases result <;> simp [Except.toOption]

/-- `scalar_one()`. -/
def one (found : Option α) : Result α :=
  match found with
  | some value => .ok value
  | none => .error .noResultFound

/-- One row was found exactly when it is there. -/
@[simp] theorem one_ok {found : Option α} {value : α} : one found = .ok value ↔ found = some value := by
  cases found <;> simp [one]

/-- `if not condition: raise problem`. -/
def require (condition : Bool) (problem : PyError) : Result Unit :=
  if condition then .ok () else .error problem

/-- What raises unless a condition holds passes exactly under the condition. -/
theorem checked_ok {ε : Type} {condition : Bool} {problem : ε} {done : Unit} :
    (if condition then .ok () else .error problem : Except ε Unit) = .ok done ↔ condition = true := by
  cases condition <;> simp

/-- A passed check establishes its condition. -/
@[simp] theorem require_ok {condition : Bool} {problem : PyError} {done : Unit} :
    require condition problem = .ok done ↔ condition = true :=
  checked_ok

end Result

end TaxStamps
