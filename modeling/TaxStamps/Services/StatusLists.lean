import TaxStamps.Crypto.StatusList
import TaxStamps.Services.Assessments

/-!
# Status-list snapshots

`statuslists.py`. Setting a flag copies the latest list of a purpose, sets one
bit and publishes the copy under the next version number. The three statements
that read and write the table are separate functions, because other
transactions may commit between them.
-/

namespace TaxStamps.StatusLists

/-- The row with the greatest version, the earliest among equals. -/
def newest : List StatusListSnapshot → Option StatusListSnapshot
  | [] => none
  | row :: rest => match newest rest with
    | none => some row
    | some later => if row.version < later.version then some later else some row

/-- The snapshots of a purpose. -/
def ofPurpose (purpose : PyStr) (db : Db) : List StatusListSnapshot :=
  db.statusListSnapshots.filter (fun row => decide (row.purpose = purpose))

/-- `ORDER BY version DESC LIMIT 1`. -/
def latest (purpose : PyStr) (db : Db) : Option StatusListSnapshot := newest (ofPurpose purpose db)

/-- `allocate_index`. -/
def allocateIndex (db : Db) : Result Nat :=
  let next := match (db.stamps.map Stamp.statusListIndex).max? with
    | none => 0
    | some current => current + 1
  if defaultListSizeBits ≤ next then
    .error (.statusListError_ (py "status list exhausted: rotate to a new list credential"))
  else .ok next

/-- `text.rstrip("/")`. -/
def rstripSlash (text : PyStr) : PyStr :=
  (text.reverse.dropWhile (fun code => decide (code = .scalar '/'))).reverse

/-- `list_credential_id`. -/
def listCredentialId (settings : Settings) (purpose : PyStr) : PyStr :=
  let base := rstripSlash settings.statusListBaseUrl
  (if base.isEmpty then py "urn:blueeconomy:taxstamps" else base) ++ py "/status-list/" ++ purpose

/-- The verification method of the issuer's key. -/
def verificationMethod (settings : Settings) : PyStr :=
  settings.issuerDid ++ py "#ed25519-" ++ kid

/-- `_current_list`. -/
def currentList (env : Env) (purpose : PyStr) (db : Db) : Result StatusList :=
  match latest purpose db with
  | none => .ok StatusList.empty
  | some row => do
    let (_, list) ← StatusList.parse env row.credential
    .ok list

/-- `(version_row or 0) + 1`. -/
def nextVersion (purpose : PyStr) (db : Db) : Int :=
  match latest purpose db with
  | none => 1
  | some row => row.version + 1

/-- The publication of a list under a version. -/
def publish (env : Env) (occasion : Occasion) (purpose : PyStr) (version : Int) (list : StatusList)
    (db : Db) : Result Db := do
  let credential ← StatusList.build env occasion.time (listCredentialId env.settings purpose) purpose
    list (verificationMethod env.settings)
  db.insertStatusListSnapshot env
    { purpose := purpose
      version := version
      credential := .dict credential
      publishedAt := occasion.time }

/-- `set_flag`. -/
def setFlag (env : Env) (occasion : Occasion) (purpose : PyStr) (index : Nat) (db : Db) :
    Result Db := do
  Result.require (decide (purpose ∈ purposes))
    (.statusListError_ (py "unknown purpose " ++ purpose))
  let list ← currentList env purpose db
  let list ← list.set index true
  publish env occasion purpose (nextVersion purpose db) list db

/-- `current_credential`. -/
def currentCredential (purpose : PyStr) (db : Db) : Option Value :=
  (latest purpose db).map StatusListSnapshot.credential

end TaxStamps.StatusLists
