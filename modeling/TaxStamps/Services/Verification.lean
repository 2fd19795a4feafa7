import TaxStamps.Domain.Serials
import TaxStamps.Services.Outbox
import TaxStamps.Services.StatusLists

/-!
# Verification

`verification.py`: the offline check of a credential, the scan of a stamp and
the void flow. A scan decides on the stamp's row, read under its lock; the
presented credential is arbitrary JSON, and whatever Python raises on it is an
exception here too.
-/

namespace TaxStamps.Verify

section Integers

/-- The digits of an integer literal; single underscores may stand between
digits. The flag says that the previous character was a digit. -/
def literalDigits (tables : Unicode) : Bool → PyStr → Option (List Nat)
  | digitBefore, [] => if digitBefore then some [] else none
  | digitBefore, code :: rest => match tables.decimal code with
    | some digit => (literalDigits tables true rest).map (digit :: ·)
    | none =>
      if code = .scalar '_' ∧ digitBefore = true then literalDigits tables false rest else none

/-- The sign of an integer literal and what follows it. -/
def literalSign : PyStr → Int × PyStr
  | .scalar '-' :: rest => (-1, rest)
  | .scalar '+' :: rest => (1, rest)
  | rest => (1, rest)

/-- What `int` skips around a literal: the white space of C, and that of `str.isspace` beyond
ASCII. It refuses the separators U+001C to U+001F, which `str.strip` removes. -/
def skipped (tables : Unicode) : Code → Bool
  | .scalar char =>
    decide (char.toNat = 32) || decide (9 ≤ char.toNat ∧ char.toNat ≤ 13) ||
      decide (128 ≤ char.toNat) && tables.isSpace (.scalar char)
  | .lone offset => tables.isSpace (.lone offset)

/-- `int` of a string. -/
def intOfText (tables : Unicode) (text : PyStr) : Result Int :=
  let signed := literalSign (PyStr.trim (skipped tables) text)
  match literalDigits tables false signed.2 with
  | none => .error .valueError
  | some digits =>
    if 4300 < digits.length then .error .valueError
    else .ok (signed.1 * (digits.foldl (fun total digit => 10 * total + digit) 0 : Nat))

/-- `int(value)`. The integer part of a float is taken from its decimal text,
which agrees with the double's below 2^53; no list index reaches that far. -/
def intOf (tables : Unicode) : Value → Result Int
  | .bool value => .ok (if value then 1 else 0)
  | .int value => .ok value
  | .float .nan => .error .valueError
  | .float (.infinity _) => .error .overflowError
  | .float (.finite negative rep) =>
    .ok (if negative then -rep.magnitude.floor else rep.magnitude.floor)
  | .str text => intOfText tables text
  | _ => .error .typeError

example : intOfText .ascii (py "\t 5\n") = .ok 5 := by decide

example : intOfText .ascii (.scalar (Char.ofNat 0x1C) :: py "5") = .error .valueError := by decide

end Integers

/-- The status lists a check is given, by purpose. -/
abbrev Lists := List (PyStr × StatusList)

/-- `status_lists.get(purpose)`. -/
def listFor (lists : Lists) : Option Value → Result (Option StatusList)
  | some (.str purpose) => .ok (lists.lookup purpose)
  | some (.list _) => .error .typeError
  | some (.dict _) => .error .typeError
  | _ => .ok none

/-- The entries that `for entry in statuses` visits. -/
def entriesOf : Value → Result (List Value)
  | .dict members => .ok [.dict members]
  | .list items => .ok items
  | .tuple items => .ok items
  | .str text => .ok (text.map (fun code => .str [code]))
  | _ => .error .typeError

/-- The purpose of a status entry, empty if it is no text. -/
def purposeText : Option Value → PyStr
  | some (.str purpose) => purpose
  | _ => []

/-- The loop over the status entries. -/
def flagged (env : Env) (lists : Lists) : List Value → Result (List PyStr)
  | [] => .ok []
  | entry :: rest => do
    let purpose ← entry.get? (py "statusPurpose")
    let stated ← entry.get? (py "statusListIndex")
    let index ← intOf env.unicode (stated.getD (Value.literal "0"))
    let list ← listFor lists purpose
    let here ← match list with
      | none => .ok []
      | some list => do
        let set ← list.get index
        .ok (if set then [py "status-flagged:" ++ purposeText purpose] else [])
    let others ← flagged env lists rest
    .ok (here ++ others)

/-- `verify_credential_offline`. -/
def verifyCredentialOffline (env : Env) (credential : List (Key × Value)) (lists : Lists) :
    Result (List PyStr) := do
  let proof ← match Vc.verifyProof env credential with
    | .ok () => .ok []
    | .error (.vcError reason) => .ok [reason]
    | .error problem => .error problem
  let entries ← entriesOf ((Value.lookup (key "credentialStatus") credential).getD (.list []))
  let flags ← flagged env lists entries
  .ok (proof ++ flags)

/-- `credential.get("credentialSubject", {}).get("serial")`. -/
def subjectSerial (credential : List (Key × Value)) : Result (Option Value) :=
  ((Value.lookup (key "credentialSubject") credential).getD (.dict [])).get? (py "serial")

/-- `_credential_failures`. -/
def credentialFailures (env : Env) (credential : Option (List (Key × Value))) (serial : PyStr)
    (lists : Lists) : Result (List PyStr) :=
  match credential with
  | none => .ok [py "credential-required"]
  | some credential => do
    let failures ← verifyCredentialOffline env credential lists
    let stated ← subjectSerial credential
    match stated with
    | some (.str text) =>
      .ok (if text = serial then failures else failures ++ [py "credential-serial-mismatch"])
    | _ => .ok (failures ++ [py "credential-serial-mismatch"])

/-- What an answer says about the first scan. -/
structure FirstScan where
  time : PyStr
  verifierId : PyStr
  latMicros : Option Int
  longMicros : Option Int
deriving DecidableEq

/-- The answer to a scan. -/
structure ScanResult where
  outcome : Outcome
  serial : PyStr
  detail : PyStr
  firstScan : Option FirstScan
deriving DecidableEq

/-- `_result`. -/
def scanResult (outcome : Outcome) (serial : PyStr) (stamp : Option Stamp) (detail : PyStr) :
    ScanResult :=
  { outcome := outcome
    serial := serial
    detail := detail
    firstScan := stamp.bind (fun stamp => stamp.firstScanAt.map (fun time =>
      ⟨Datetime.isoSeconds time, stamp.firstScanVerifier, stamp.firstScanLatMicros,
        stamp.firstScanLongMicros⟩)) }

/-- The arguments of a scan besides the serial. -/
structure Scan where
  verifierId : PyStr
  publicScan : Bool
  latMicros : Option Int
  longMicros : Option Int
  credential : Option (List (Key × Value))
  consume : Bool
  statusLists : Lists

/-- The row of an attempt. -/
def attempt (occasion : Occasion) (scan : Scan) (serialPresented : PyStr) (stampId : Option Nat)
    (outcome : Outcome) (detail : PyStr) : Verification :=
  { stampId := stampId
    serialPresented := serialPresented
    verifierId := scan.verifierId
    publicScan := scan.publicScan
    outcome := outcome
    detail := detail
    latMicros := scan.latMicros
    longMicros := scan.longMicros
    verifiedAt := occasion.time }

/-- `_record_attempt`. -/
def recordAttempt (occasion : Occasion) (scan : Scan) (serialPresented : PyStr) (stampId : Option Nat)
    (outcome : Outcome) (detail : PyStr) (db : Db) : Result Db :=
  db.insertVerification (attempt occasion scan serialPresented stampId outcome detail)

/-- The attempts that count for the velocity of a stamp. -/
def inWindow (stampId : Nat) (start : Datetime) (row : Verification) : Bool :=
  decide (row.stampId = some stampId) && decide (start ≤ row.verifiedAt) && !row.verifierId.isEmpty

/-- `_velocity_suspect`. -/
def velocitySuspect (env : Env) (occasion : Occasion) (stampId : Nat) (db : Db) : Result Bool := do
  let start ← Datetime.subHours occasion.time env.settings.velocityWindowHours
  let distinct := ((db.verifications.filter (inWindow stampId start)).map Verification.verifierId).dedup
  .ok (decide (env.settings.velocityDistinctDevices ≤ distinct.length))

/-- A coordinate as the event holds it. -/
def micros : Option Int → Value
  | none => .none
  | some value => .int value

/-- The stamp after its first valid scan. -/
def consumed (time : Datetime) (scan : Scan) (stamp : Stamp) : Stamp :=
  { stamp with
    status := .consumed
    firstScanAt := some time
    firstScanVerifier := scan.verifierId
    firstScanLatMicros := scan.latMicros
    firstScanLongMicros := scan.longMicros }

/-- A repeat scan: a different, named verifier makes the stamp suspect. -/
def repeatScan (env : Env) (occasion : Occasion) (scan : Scan) (serial : PyStr) (stampId : Nat)
    (stamp : Stamp) (db : Db) : Result (ScanResult × Db) :=
  let suspect := decide (stamp.firstScanVerifier ≠ scan.verifierId) && !scan.verifierId.isEmpty
  let outcome := if suspect then Outcome.cloneSuspect else .alreadyVerified
  do
    let db ← recordAttempt occasion scan serial (some stampId) outcome (py "repeat scan") db
    let db ← if suspect then
        StatusLists.setFlag env occasion (py "suspect") stamp.statusListIndex
          (db.updateStamp stampId (fun row => { row with status := .suspect }))
      else .ok db
    .ok (scanResult outcome serial (some stamp) (py "repeat scan"), db)

/-- The first valid scan of an active stamp consumes it. -/
def consumeStamp (env : Env) (occasion : Occasion) (scan : Scan) (serial : PyStr) (stampId : Nat)
    (stamp : Stamp) (db : Db) : Result (ScanResult × Db) := do
  let db := db.updateStamp stampId (consumed occasion.time scan)
  let db ← recordAttempt occasion scan serial (some stampId) .valid (py "first scan") db
  let velocity ← velocitySuspect env occasion stampId db
  let db ← Outbox.enqueue env occasion .verified
    [(key "serial", .str stamp.serial),
      (key "batchId", .str (env.uuid (py "stamp_batches") stamp.batchId)),
      (key "verifierId", .str scan.verifierId),
      (key "publicScan", .bool scan.publicScan),
      (key "latMicros", micros scan.latMicros),
      (key "longMicros", micros scan.longMicros),
      (key "velocitySuspect", .bool velocity)]
    (Outbox.orElse scan.verifierId (py "public")) (py "verifier") stamp.declarationRef db
  .ok (scanResult .valid serial (some (consumed occasion.time scan stamp)) (py "first scan"), db)

/-- An attempt that leaves the stamp as it is. -/
def answer (occasion : Occasion) (scan : Scan) (serial : PyStr) (stampId : Nat) (stamp : Stamp)
    (outcome : Outcome) (detail : PyStr) (db : Db) : Result (ScanResult × Db) := do
  let db ← recordAttempt occasion scan serial (some stampId) outcome detail db
  .ok (scanResult outcome serial (some stamp) detail, db)

/-- `verify_stamp` once the stamp's row is locked. -/
def verifyLocked (env : Env) (occasion : Occasion) (scan : Scan) (serial : PyStr) (stampId : Nat)
    (stamp : Stamp) (db : Db) : Result (ScanResult × Db) :=
  if stamp.status = .void then answer occasion scan serial stampId stamp .void [] db
  else if stamp.status = .expired ∨ stamp.validUntil ≤ occasion.time then
    answer occasion scan serial stampId stamp .expired [] db
  else if stamp.status = .consumed ∨ stamp.firstScanAt.isSome = true then
    repeatScan env occasion scan serial stampId stamp db
  else if stamp.status ≠ .active then
    answer occasion scan serial stampId stamp .notActive (py "stamp is " ++ stamp.status.name) db
  else if !scan.consume then
    answer occasion scan serial stampId stamp .active (py "non-consuming pre-check") db
  else
    credentialFailures env scan.credential serial scan.statusLists >>= fun failures =>
      if failures.isEmpty then consumeStamp env occasion scan serial stampId stamp db
      else answer occasion scan serial stampId stamp .invalidCredential
        (PyStr.join (py "; ") failures) db

/-- The stamp with a serial. -/
def stampBySerial (serial : PyStr) (db : Db) : Option (Nat × Stamp) :=
  Rows.select (fun row => decide (row.serial = serial)) db.stamps

/-- `verify_stamp`. -/
def verifyStamp (env : Env) (occasion : Occasion) (scan : Scan) (serial : PyStr) (db : Db) :
    Result (ScanResult × Db) :=
  let presented := Serials.normalize env.unicode serial
  match Serials.parseSerial env.unicode presented with
  | .error (.serialError text) => do
    let db ← recordAttempt occasion scan (presented.take 64) none .malformedSerial text db
    .ok (scanResult .malformedSerial presented none text, db)
  | .error problem => .error problem
  | .ok parts => match stampBySerial parts.serial db with
    | none => do
      let db ← recordAttempt occasion scan parts.serial none .unknownSerial [] db
      .ok (scanResult .unknownSerial parts.serial none [], db)
    | some (stampId, stamp) => verifyLocked env occasion scan parts.serial stampId stamp db

/-- `void_stamp` once the stamp's row is locked. -/
def voidLocked (env : Env) (occasion : Occasion) (reason principalSub : PyStr) (stampId : Nat)
    (stamp : Stamp) (db : Db) : Result Db :=
  if stamp.status = .void then .ok db
  else do
    let db ← StatusLists.setFlag env occasion (py "void") stamp.statusListIndex
      (db.updateStamp stampId (fun row => { row with status := .void }))
    Outbox.enqueue env occasion .voided
      [(key "serial", .str stamp.serial), (key "reason", .str reason),
        (key "batchId", .str (env.uuid (py "stamp_batches") stamp.batchId))]
      principalSub (py "excise-approver") stamp.declarationRef db

/-- `void_stamp`. -/
def voidStamp (env : Env) (occasion : Occasion) (serial reason principalSub : PyStr) (db : Db) :
    Result Db :=
  if (PyStr.strip env.unicode reason).isEmpty then
    .error (.verificationError (py "reason-required") (py "void requires a reason"))
  else match stampBySerial (Serials.normalize env.unicode serial) db with
    | none => .error (.verificationError (py "not-found") (py "unknown serial"))
    | some (stampId, stamp) => voidLocked env occasion reason principalSub stampId stamp db

end TaxStamps.Verify
