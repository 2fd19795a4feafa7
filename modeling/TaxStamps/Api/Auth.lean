import TaxStamps.Python.Base64
import TaxStamps.Python.Repr
import TaxStamps.Python.Scanner

/-!
# Bearer tokens

`auth.py` and the identity dependency of `deps.py`. Header and payload of a token
are text of the caller's choice, read before any signature is checked. Beside
`AuthError` every step may raise what the operation on such a value raises. The
verification of a signature is a parameter of the key; it fails when the library
raises.
-/

namespace TaxStamps.Auth

/-- A hashable JSON value up to `==`: `True`, `1` and `1.0` are one key. -/
inductive HashKey
  | none_
  | number (value : ℚ)
  | infinity (negative : Bool)
  | nan
  | str (text : PyStr)
deriving DecidableEq

/-- The key a value is in a dict or a set; nothing when it is not hashable. -/
def hashKey? : Value → Option HashKey
  | .none => some .none_
  | .bool value => some (.number (if value then 1 else 0))
  | .int value => some (.number value)
  | .float .nan => some .nan
  | .float (.infinity negative) => some (.infinity negative)
  | .float (.finite negative rep) => some (.number (if negative then -rep.magnitude else rep.magnitude))
  | .str value => some (.str value)
  | _ => none

/-- `AuthError` with its reason, or another exception. -/
inductive Raised
  | authError (reason : PyStr)
  | other (problem : PyError)
deriving DecidableEq

/-- An answer, or the refusal of a bearer header. -/
abbrev Answer := Except Raised

/-- The algorithms of the accepted keys. -/
inductive Algorithm
  | rs256 | edDsa
deriving DecidableEq

/-- The name of an algorithm in a token's header. -/
def Algorithm.name : Algorithm → PyStr
  | .rs256 => py "RS256"
  | .edDsa => py "EdDSA"

/-- A key with the algorithm bound to it; `verify` takes the signature and the
signed bytes. -/
structure BoundKey where
  algorithm : Algorithm
  verify : Bytes → Bytes → Bool

/-- `JwksKeyring`, which holds a key at least. -/
structure Keyring where
  keys : List (HashKey × BoundKey)
  present : keys ≠ []

/-- The OIDC settings. -/
structure OidcSettings where
  jwksUrl : PyStr
  jwksPath : PyStr
  issuer : PyStr
  audience : PyStr

/-- `oidc_configured`. -/
def OidcSettings.configured (settings : OidcSettings) : Bool :=
  (!settings.jwksUrl.isEmpty || !settings.jwksPath.isEmpty) && !settings.issuer.isEmpty

/-- `Identity`; the set of roles is the list of what was put into it. -/
structure Identity where
  subject : PyStr
  roles : List Value
  tenant : PyStr
  clearance : PyStr

/-- An exception that is not an `AuthError`. -/
def lift {α : Type} (result : Result α) : Answer α := result.mapError .other

/-- `raise AuthError(reason)` unless the condition holds. -/
def demand (condition : Bool) (reason : String) : Answer Unit :=
  if condition then .ok () else .error (.authError (py reason))

/-- `_b64u` without its exception. -/
def decoded (data : PyStr) : Option Bytes := Base64.urlsafeB64decode (data ++ Base64.padding data)

/-- `_b64u`. -/
def b64u (data : PyStr) : Answer Bytes :=
  match decoded data with
  | some bytes => .ok bytes
  | none => .error (.authError (py "malformed-token"))

/-- `json.loads` of bytes. -/
def jsonOf (interpreter : Scanner.Interpreter) (data : Bytes) : Answer Value :=
  lift (Scanner.loads interpreter (.bytes data))

/-- `value.get(name)`. -/
def member (value : Value) (name : String) : Answer (Option Value) := lift (value.get? (py name))

/-- `JwksKeyring.resolve`. -/
def resolve (keyring : Keyring) (kid : Value) : Answer BoundKey :=
  match hashKey? kid with
  | none => .error (.other .typeError)
  | some key =>
    match keyring.keys.lookup key with
    | none => .error (.authError (py "unknown-kid"))
    | some entry => .ok entry

/-- `text.encode("ascii")`. -/
def asciiEncode (text : PyStr) : Result Bytes :=
  if text.all Base64.isAscii then .ok (text.map (fun code => UInt8.ofNat code.ord))
  else .error .unicodeEncodeError

/-- A looked-up member is the text. -/
def isStr (text : PyStr) : Option Value → Bool
  | some (.str value) => decide (value = text)
  | _ => false

/-- `isinstance(exp, int) and exp > now`; a bool is an int. -/
def unexpired (now : Int) : Option Value → Bool
  | some (.int exp) => decide (now < exp)
  | some (.bool exp) => decide (now < if exp then 1 else 0)
  | _ => false

/-- `audience in (aud if isinstance(aud, list) else [aud])`. -/
def inAudience (audience : PyStr) : Option Value → Bool
  | some (.list items) => items.any (fun item => isStr audience (some item))
  | found => isStr audience found

/-- The value can be a key of a dict. -/
def hashable (value : Value) : Bool := (hashKey? value).isSome

/-- What a set makes of an iterable. -/
def iterate : Value → Result (List Value)
  | .list items => if items.all hashable then .ok items else .error .typeError
  | .tuple items => if items.all hashable then .ok items else .error .typeError
  | .str text => .ok (text.map (fun code => .str [code]))
  | .dict members => .ok (members.map (fun entry => .str (Jcs.keyName entry.1)))
  | _ => .error .typeError

/-- `set(found or [])`. -/
def setOf : Option Value → Result (List Value)
  | none => .ok []
  | some value => if value.truthy then iterate value else .ok []

/-- The roles of one client, or of the realm. -/
def rolesIn (value : Value) : Result (List Value) := do
  let found ← value.get? (py "roles")
  setOf found

/-- `value.values()`, each with its key. -/
def valuesOf : Value → Result (List (Key × Value))
  | .dict members => .ok members
  | _ => .error .attributeError

/-- `(found or {}).values()`. -/
def clientsOf : Option Value → Result (List (Key × Value))
  | none => .ok []
  | some value => if value.truthy then valuesOf value else .ok []

/-- The roles of all clients, up to the first whose roles cannot be read. -/
def clientRoles : List (Key × Value) → Result (List Value)
  | [] => .ok []
  | (_, client) :: rest => do
    let here ← rolesIn client
    let others ← clientRoles rest
    .ok (here ++ others)

/-- The roles of a payload. -/
def rolesOf (payload : Value) : Result (List Value) := do
  let realm ← payload.get? (py "realm_access")
  let realmRoles ← rolesIn (realm.getD (.dict []))
  let resources ← payload.get? (py "resource_access")
  let clients ← clientsOf resources
  let others ← clientRoles clients
  .ok (realmRoles ++ others)

/-- The subject must be a text that is not empty. -/
def subjectOf : Option Value → Answer PyStr
  | some (.str value) => if value.isEmpty then .error (.authError (py "malformed-token")) else .ok value
  | _ => .error (.authError (py "malformed-token"))

/-- `str(found or "")`. -/
def textOf (tables : Unicode) : Option Value → PyStr
  | some value => if value.truthy then value.toStr tables else []
  | none => []

/-- `verify_bearer`. -/
def verifyBearer (interpreter : Scanner.Interpreter) (tables : Unicode) (keyring : Keyring)
    (settings : OidcSettings) (now : Int) (token : PyStr) : Answer Identity :=
  match token.splitOn (.scalar '.') with
  | [first, second, third] => do
    let headerBytes ← b64u first
    let header ← jsonOf interpreter headerBytes
    let payloadBytes ← b64u second
    let payload ← jsonOf interpreter payloadBytes
    let kid ← member header "kid"
    let key ← resolve keyring (kid.getD (.str []))
    let alg ← member header "alg"
    demand (isStr key.algorithm.name alg) "unsupported-alg"
    let signature ← b64u third
    let signingInput ← lift (asciiEncode (first ++ .scalar '.' :: second))
    demand (key.verify signature signingInput) "invalid-signature"
    let exp ← member payload "exp"
    demand (unexpired now exp) "token-expired"
    let iss ← member payload "iss"
    demand (settings.issuer.isEmpty || isStr settings.issuer iss) "issuer-mismatch"
    let aud ← member payload "aud"
    demand (settings.audience.isEmpty || inAudience settings.audience aud) "audience-mismatch"
    let roles ← lift (rolesOf payload)
    let sub ← member payload "sub"
    let subject ← subjectOf sub
    let tenant ← member payload "tenant"
    let clearance ← member payload "clearance"
    .ok { subject := subject
          roles := roles
          tenant := textOf tables tenant
          clearance := textOf tables clearance }
  | _ => .error (.authError (py "malformed-token"))

/-- `get_identity` on the value of the authorization header. -/
def getIdentity (interpreter : Scanner.Interpreter) (tables : Unicode) (keyring : Option Keyring)
    (settings : OidcSettings) (now : Int) (authorization : PyStr) : Result Identity :=
  match keyring with
  | none => .error (.httpException 503 (py "auth-oidc-unavailable"))
  | some keyring =>
    if !settings.configured then .error (.httpException 503 (py "auth-oidc-unavailable"))
    else if authorization.take 7 ≠ py "Bearer " then .error (.httpException 401 (py "missing-bearer"))
    else
      match verifyBearer interpreter tables keyring settings now
        (PyStr.strip tables (authorization.drop 7)) with
      | .ok identity => .ok identity
      | .error (.authError reason) => .error (.httpException 401 reason)
      | .error (.other problem) => .error problem

end TaxStamps.Auth
