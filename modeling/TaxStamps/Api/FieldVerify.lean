import TaxStamps.Api.Schemas
import TaxStamps.Python.Base64
import TaxStamps.Services.RedisGuard

/-!
# Who may scan

What `POST /v1/verify` does before the scan, which is `Routes.verify`: the
verifier presents its credential, is counted against its rate limit and claims
the nonce of the request. An exception of the two guards is answered with 503 or
429; any other is answered with 500.
-/

namespace TaxStamps.Guard

/-- A row of `verifier_credentials`. -/
structure VerifierCredential where
  verifierId : PyStr
  credentialHash : PyStr
  active : Bool
  verifierId_fits : PyStr.fits 128 verifierId = true

/-- A request: the two headers, the nonce of the body, the second at which it is
counted, and its commands to Redis. A header that is not sent is empty. -/
structure Request where
  verifierId : PyStr
  credential : PyStr
  nonce : PyStr
  clock : Nat
  incr : Command
  expire : Command
  set : Command
  nonce_length : PyStr.sized 8 128 nonce = true

/-- Status, reason and, where there is one, detail. -/
structure Refusal where
  status : Nat
  reason : PyStr
  detail : Option PyStr
deriving DecidableEq

/-- The answer to an exception that nothing catches. -/
def internalError : Refusal := ⟨500, [], none⟩

/-- The answer to a verifier that is not registered, is revoked or presents another credential. -/
def unknownVerifier : Refusal := ⟨401, py "unknown-verifier", none⟩

/-- `hash_verifier_credential`. -/
def hashVerifierCredential (env : Env) (verifierId credential : PyStr) : Result PyStr := do
  let text ← Jcs.utf8 (py "verifier:" ++ verifierId ++ py ":" ++ credential)
  .ok (Merkle.hex (env.sha256 text))

/-- `hmac.compare_digest`, which compares ASCII text only. -/
def compareDigest (presented stored : PyStr) : Result Bool :=
  if presented.all Base64.isAscii && stored.all Base64.isAscii then .ok (decide (presented = stored))
  else .error .typeError

/-- The presented credential has the registered hash. -/
def presents (env : Env) (row : VerifierCredential) (verifierId credential : PyStr) : Result Bool := do
  let presented ← hashVerifierCredential env verifierId credential
  compareDigest presented row.credentialHash

/-- `_authenticate_verifier`. -/
def authenticateVerifier (env : Env) (verifiers : List VerifierCredential)
    (verifierId credential : PyStr) : Except Refusal VerifierCredential :=
  if verifierId.isEmpty || credential.isEmpty then
    .error ⟨401, py "missing-verifier-credential", none⟩
  else
    match verifiers.find? (fun row => decide (row.verifierId = verifierId)) with
    | none => .error unknownVerifier
    | some row =>
      if !row.active then .error unknownVerifier
      else
        match presents env row verifierId credential with
        | .error _ => .error internalError
        | .ok matched =>
          if matched then .ok row else .error ⟨401, py "invalid-verifier-credential", none⟩

variable {Redis : Type} [Expiring.Commands PyStr Redis]

/-- The count of a request against the limit of its verifier. -/
def countRequest (limit : Int) (verifierId : PyStr) (request : Request) (redis : Redis) :
    Redis × Except Raised Unit :=
  rateLimit (py "verify:" ++ verifierId) limit request.clock request.incr request.expire redis

/-- The two guards of `verify`. -/
def guards (env : Env) (limit : Int) (verifierId : PyStr) (request : Request) (redis : Redis) :
    Redis × Except Raised Unit :=
  match countRequest limit verifierId request redis with
  | (redis, .error problem) => (redis, .error problem)
  | (redis, .ok _) =>
    match nonceKey env verifierId request.nonce with
    | .error _ => (redis, .error .unicodeEncodeError)
    | .ok key => claimNonce request.set key redis

/-- The answer to an exception of the guards. -/
def refusalOf : Raised → Refusal
  | .redisUnavailable => ⟨503, py "redis-unavailable",
      some (py "verification is fail-closed when Redis is unavailable")⟩
  | .valueError text => ⟨429, py "nonce-or-rate-limit", some text⟩
  | .unicodeEncodeError => ⟨429, py "nonce-or-rate-limit", none⟩

/-- `verify` up to the scan. -/
def verify (env : Env) (limit : Int) (verifiers : List VerifierCredential) (redis : Redis)
    (request : Request) : Redis × Except Refusal VerifierCredential :=
  match authenticateVerifier env verifiers request.verifierId request.credential with
  | .error refusal => (redis, .error refusal)
  | .ok verifier =>
    match guards env limit verifier.verifierId request redis with
    | (redis, .error problem) => (redis, .error (refusalOf problem))
    | (redis, .ok _) => (redis, .ok verifier)

section Authentication

variable {env : Env} {verifiers : List VerifierCredential} {verifierId credential : PyStr}
  {row : VerifierCredential}

/-- An authenticated verifier is a row of the table under the presented
identifier, active, and with the hash of the presented credential. -/
theorem authenticateVerifier_ok
    (authenticated : authenticateVerifier env verifiers verifierId credential = .ok row) :
    row ∈ verifiers ∧ row.verifierId = verifierId ∧ verifierId ≠ [] ∧ row.active = true ∧
      hashVerifierCredential env verifierId credential = .ok row.credentialHash := by
  unfold authenticateVerifier at authenticated
  split at authenticated
  · cases authenticated
  · next given =>
    split at authenticated
    · cases authenticated
    · next found =>
      split at authenticated
      · cases authenticated
      · next active =>
        split at authenticated
        · cases authenticated
        · next matched compared =>
          split at authenticated
          · next same =>
            cases authenticated
            rw [same, presents, Result.bind_ok] at compared
            obtain ⟨presented, hashed, compared⟩ := compared
            have digests : presented = row.credentialHash := by
              unfold compareDigest at compared
              split at compared
              · exact of_decide_eq_true (Except.ok.inj compared)
              · cases compared
            have named := List.find?_some found
            exact ⟨List.mem_of_find?_eq_some found, of_decide_eq_true named,
              fun empty => given (by simp [empty]), by simpa using active, digests ▸ hashed⟩
          · cases authenticated

end Authentication

end TaxStamps.Guard
