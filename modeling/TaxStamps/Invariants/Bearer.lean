import TaxStamps.Api.Auth
import TaxStamps.Crypto.Recanonical
import TaxStamps.Library.Raises

/-!
# How bearer tokens are answered

A token is answered with an identity, and then the keyring vouches for it, or
with an `AuthError`. Another exception leaves the verification exactly when a
segment is no JSON text, the header is no object or names an unhashable key, or a
signed payload does not have the shape that is read from it.
-/

namespace TaxStamps.Auth

open Raises (Only only_ok only_error only_bind only_next)

variable {interpreter : Scanner.Interpreter} {tables : Unicode} {keyring : Keyring} {settings : OidcSettings}
  {now : Int} {first second third token : PyStr} {header payload : Value} {members : List (Key × Value)}

/-- The exception is an `AuthError`. -/
def IsAuth (raised : Raised) : Prop := ∃ reason, raised = .authError reason

/-- The `kid` of a header. -/
def kidOf (header : List (Key × Value)) : Value := (Value.lookup (key "kid") header).getD (.str [])

/-- The header is an object with a hashable `kid`. -/
def HeaderForeseen (header : Value) : Prop :=
  ∃ members, header = .dict members ∧ hashable (kidOf members) = true

/-- The bytes that are signed. -/
def signedBytes (first second : PyStr) : Bytes :=
  (first ++ .scalar '.' :: second).map (fun code => UInt8.ofNat code.ord)

/-- The header names a key of the keyring with its algorithm, and the signature
of the first two segments verifies under that key. -/
def Signed (keyring : Keyring) (first second third : PyStr) (header : Value) : Prop :=
  ∃ members kid entry signature, header = .dict members ∧ hashKey? (kidOf members) = some kid ∧
    keyring.keys.lookup kid = some entry ∧
    isStr entry.algorithm.name (Value.lookup (key "alg") members) = true ∧
    decoded third = some signature ∧ entry.verify signature (signedBytes first second) = true

/-- The claims of a payload: expiry, issuer and audience. -/
structure Claims (settings : OidcSettings) (now : Int) (payload : List (Key × Value)) : Prop where
  expiry : unexpired now (Value.lookup (key "exp") payload) = true
  issuer : settings.issuer ≠ [] → isStr settings.issuer (Value.lookup (key "iss") payload) = true
  audience : settings.audience ≠ [] →
    inAudience settings.audience (Value.lookup (key "aud") payload) = true

/-- What a set can be made of. -/
def Iterable : Value → Prop
  | .list items => items.all hashable = true
  | .tuple items => items.all hashable = true
  | .str _ => True
  | .dict _ => True
  | _ => False

/-- A value with a member `roles` that a set can be made of. -/
def HasRoles (value : Value) : Prop :=
  ∃ members, value = .dict members ∧ ∀ roles, Value.lookup (key "roles") members = some roles →
    roles.truthy = true → Iterable roles

/-- The shape of the roles in a payload. -/
structure WellShaped (payload : List (Key × Value)) : Prop where
  realm : HasRoles ((Value.lookup (key "realm_access") payload).getD (.dict []))
  clients : ∀ resources, Value.lookup (key "resource_access") payload = some resources →
    resources.truthy = true → ∃ clients, resources = .dict clients ∧ ∀ client ∈ clients, HasRoles client.2

/-- The payload is an object, and of the right shape when its claims hold. -/
def PayloadForeseen (settings : OidcSettings) (now : Int) (payload : Value) : Prop :=
  ∃ members, payload = .dict members ∧ (Claims settings now members → WellShaped members)

/-- The segments that are decoded are JSON texts of the shape that is read. -/
def Foreseen (interpreter : Scanner.Interpreter) (keyring : Keyring) (settings : OidcSettings) (now : Int)
    (token : PyStr) : Prop :=
  ∀ first second third, token.splitOn (.scalar '.') = [first, second, third] →
    ∀ headerBytes, decoded first = some headerBytes →
      ∃ header, Scanner.loads interpreter (.bytes headerBytes) = .ok header ∧
        ∀ payloadBytes, decoded second = some payloadBytes →
          ∃ payload, Scanner.loads interpreter (.bytes payloadBytes) = .ok payload ∧
            HeaderForeseen header ∧
            (Signed keyring first second third header → PayloadForeseen settings now payload)

/-- The keyring vouches for a token whose claims hold. -/
def Vouched (interpreter : Scanner.Interpreter) (keyring : Keyring) (settings : OidcSettings) (now : Int)
    (token : PyStr) : Prop :=
  ∃ first second third headerBytes payloadBytes header payload,
    token.splitOn (.scalar '.') = [first, second, third] ∧
    decoded first = some headerBytes ∧ Scanner.loads interpreter (.bytes headerBytes) = .ok header ∧
    decoded second = some payloadBytes ∧
    Scanner.loads interpreter (.bytes payloadBytes) = .ok (.dict payload) ∧
    Signed keyring first second third header ∧ Claims settings now payload

/-- The part of `verify_bearer` that reads the header. -/
def authenticate (keyring : Keyring) (first second third : PyStr) (header : Value) : Answer Unit := do
  let kid ← member header "kid"
  let key ← resolve keyring (kid.getD (.str []))
  let alg ← member header "alg"
  demand (isStr key.algorithm.name alg) "unsupported-alg"
  let signature ← b64u third
  let signingInput ← lift (asciiEncode (first ++ .scalar '.' :: second))
  demand (key.verify signature signingInput) "invalid-signature"

/-- The part that reads the claims. -/
def acceptClaims (settings : OidcSettings) (now : Int) (payload : Value) : Answer Unit := do
  let exp ← member payload "exp"
  demand (unexpired now exp) "token-expired"
  let iss ← member payload "iss"
  demand (settings.issuer.isEmpty || isStr settings.issuer iss) "issuer-mismatch"
  let aud ← member payload "aud"
  demand (settings.audience.isEmpty || inAudience settings.audience aud) "audience-mismatch"

/-- The part that reads the identity. -/
def identityOf (tables : Unicode) (payload : Value) : Answer Identity := do
  let roles ← lift (rolesOf payload)
  let sub ← member payload "sub"
  let subject ← subjectOf sub
  let tenant ← member payload "tenant"
  let clearance ← member payload "clearance"
  .ok { subject := subject
        roles := roles
        tenant := textOf tables tenant
        clearance := textOf tables clearance }

/-- The three parts in a row. -/
theorem verifyBearer_parts (split : token.splitOn (.scalar '.') = [first, second, third]) :
    verifyBearer interpreter tables keyring settings now token = (do
      let headerBytes ← b64u first
      let header ← jsonOf interpreter headerBytes
      let payloadBytes ← b64u second
      let payload ← jsonOf interpreter payloadBytes
      authenticate keyring first second third header
      acceptClaims settings now payload
      identityOf tables payload) := by
  rw [verifyBearer, split]
  simp only [authenticate, acceptClaims, identityOf, bind_assoc]

section Steps

variable {α : Type}

/-- A demand raises nothing else. -/
theorem only_demand (condition : Bool) (reason : String) : Only IsAuth (demand condition reason) := by
  rw [demand]
  split
  case isTrue => exact only_ok ()
  case isFalse => exact only_error.mpr ⟨_, rfl⟩

/-- A demand succeeds exactly under its condition. -/
theorem demand_ok {condition : Bool} {reason : String} {done : Unit} :
    demand condition reason = .ok done ↔ condition = true :=
  Result.checked_ok

/-- Decoding a segment raises nothing else. -/
theorem only_b64u (data : PyStr) : Only IsAuth (b64u data) := by
  rw [b64u]
  split
  case _ => exact only_ok _
  case _ => exact only_error.mpr ⟨_, rfl⟩

/-- A segment is decoded exactly to its bytes. -/
theorem b64u_ok {data : PyStr} {bytes : Bytes} : b64u data = .ok bytes ↔ decoded data = some bytes := by
  rw [b64u]
  cases decoded data <;> simp

/-- Other exceptions leave the values as they are. -/
theorem lift_ok {result : Result α} {value : α} : lift result = .ok value ↔ result = .ok value := by
  cases result <;> simp [lift, Except.mapError]

/-- What raises no `AuthError` must return. -/
theorem only_lift {result : Result α} : Only IsAuth (lift result) ↔ ∃ value, result = .ok value := by
  cases result with
  | ok value => exact ⟨fun _ => ⟨value, rfl⟩, fun _ => only_ok value⟩
  | error problem =>
    have raised : lift (Except.error problem : Result α) = .error (.other problem) := rfl
    rw [raised, only_error]
    exact ⟨(by rintro ⟨reason, ⟨⟩⟩), (by rintro ⟨value, ⟨⟩⟩)⟩

/-- A member is asked of an object. -/
theorem get_dict {value : Value} {name : PyStr} {found : Option Value} :
    value.get? name = .ok found ↔ ∃ members, value = .dict members ∧ Value.lookup (.str name) members = found := by
  cases value <;> simp [Value.get?]

/-- A computation whose exceptions are no `AuthError` must succeed. -/
theorem only_lift_next {result : Result α} {β : Type} {next : α → Answer β} :
    Only IsAuth (lift result >>= next) ↔ ∃ value, result = .ok value ∧ Only IsAuth (next value) := by
  rw [only_bind, only_lift]
  constructor
  · rintro ⟨⟨value, same⟩, each⟩
    exact ⟨value, same, each value (lift_ok.mpr same)⟩
  · rintro ⟨value, same, only⟩
    refine ⟨⟨value, same⟩, fun other equal => ?_⟩
    obtain rfl := Except.ok.inj (same.symm.trans (lift_ok.mp equal))
    exact only

/-- Reading a member asks for an object. -/
theorem only_member_next {value : Value} {name : String} {next : Option Value → Answer α} :
    Only IsAuth (member value name >>= next) ↔
      ∃ members, value = .dict members ∧ Only IsAuth (next (Value.lookup (key name) members)) := by
  rw [member, only_lift_next]
  constructor
  · rintro ⟨found, read, only⟩
    obtain ⟨members, object, rfl⟩ := get_dict.mp read
    exact ⟨members, object, only⟩
  · rintro ⟨members, object, only⟩
    exact ⟨_, get_dict.mpr ⟨members, object, rfl⟩, only⟩

/-- What follows the question for a member, on objects. -/
theorem member_next {value : Value} {name : String} {next : Option Value → Answer α} {result : α} :
    (member value name >>= next) = .ok result ↔
      ∃ members, value = .dict members ∧ next (Value.lookup (key name) members) = .ok result := by
  rw [Raises.bind_ok]
  constructor
  · rintro ⟨found, read, continued⟩
    obtain ⟨members, object, rfl⟩ := get_dict.mp (lift_ok.mp read)
    exact ⟨members, object, continued⟩
  · rintro ⟨members, object, continued⟩
    exact ⟨_, lift_ok.mpr (get_dict.mpr ⟨members, object, rfl⟩), continued⟩

/-- After a demand only its success matters. -/
theorem only_demand_next {condition : Bool} {reason : String} {next : Unit → Answer α} :
    Only IsAuth (demand condition reason >>= next) ↔ (condition = true → Only IsAuth (next ())) := by
  rw [only_next (only_demand _ _)]
  exact ⟨fun each holds => each () (demand_ok.mpr holds), fun only _ done => only (demand_ok.mp done)⟩

/-- A demand followed by anything succeeds when both do. -/
theorem demand_next {condition : Bool} {reason : String} {next : Unit → Answer α} {result : α} :
    (demand condition reason >>= next) = .ok result ↔ condition = true ∧ next () = .ok result := by
  rw [Raises.bind_ok]
  exact ⟨fun ⟨_, done, continued⟩ => ⟨demand_ok.mp done, continued⟩,
    fun ⟨holds, continued⟩ => ⟨(), demand_ok.mpr holds, continued⟩⟩

/-- After decoding only the decoded bytes matter. -/
theorem only_b64u_next {data : PyStr} {next : Bytes → Answer α} :
    Only IsAuth (b64u data >>= next) ↔ ∀ bytes, decoded data = some bytes → Only IsAuth (next bytes) := by
  rw [only_next (only_b64u _)]
  exact forall_congr' fun bytes => imp_congr_left b64u_ok

/-- Looking up a key raises nothing else exactly for a hashable identifier. -/
theorem only_resolve {kid : Value} : Only IsAuth (resolve keyring kid) ↔ hashable kid = true := by
  rw [resolve, hashable]
  cases hashKey? kid with
  | none =>
    rw [only_error]
    exact ⟨(by rintro ⟨reason, ⟨⟩⟩), (by rintro ⟨⟩)⟩
  | some found =>
    refine ⟨fun _ => rfl, fun _ => ?_⟩
    dsimp only
    split
    case _ => exact only_error.mpr ⟨_, rfl⟩
    case _ => exact only_ok _

/-- A key is found exactly under its hashed identifier. -/
theorem resolve_ok {kid : Value} {entry : BoundKey} :
    resolve keyring kid = .ok entry ↔
      ∃ found, hashKey? kid = some found ∧ keyring.keys.lookup found = some entry := by
  rw [resolve]
  cases hashKey? kid with
  | none => simp
  | some found =>
    dsimp only
    cases listed : keyring.keys.lookup found <;> simp [listed]

/-- A decoded segment is ASCII. -/
theorem decoded_ascii {data : PyStr} {bytes : Bytes} (known : decoded data = some bytes) :
    data.all Base64.isAscii = true := by
  rw [decoded, Base64.urlsafeB64decode] at known
  split at known
  case isTrue ascii =>
    rw [List.all_append, Bool.and_eq_true] at ascii
    exact ascii.1
  case isFalse => cases known

/-- The signed bytes are those of both segments with the dot between them. -/
theorem asciiEncode_segments (firstAscii : first.all Base64.isAscii = true)
    (secondAscii : second.all Base64.isAscii = true) :
    asciiEncode (first ++ .scalar '.' :: second) = .ok (signedBytes first second) := by
  have point : Base64.isAscii (.scalar '.') = true := by decide
  rw [asciiEncode, List.all_append, List.all_cons, firstAscii, secondAscii, point]
  rfl

end Steps

section Header

variable (firstAscii : first.all Base64.isAscii = true) (secondAscii : second.all Base64.isAscii = true)

include firstAscii secondAscii

/-- The signature is checked without another exception exactly for a foreseen header. -/
theorem only_authenticate :
    Only IsAuth (authenticate keyring first second third header) ↔ HeaderForeseen header := by
  rw [authenticate, only_member_next, asciiEncode_segments firstAscii secondAscii]
  refine exists_congr fun members => and_congr_right fun object => ?_
  subst object
  rw [only_bind, only_resolve]
  refine ⟨fun both => both.1, fun known => ⟨known, fun entry _ => ?_⟩⟩
  rw [only_member_next]
  refine ⟨members, rfl, ?_⟩
  rw [only_demand_next]
  intro _
  rw [only_b64u_next]
  intro signature _
  rw [only_lift_next]
  exact ⟨_, rfl, only_demand _ _⟩

/-- The signature is accepted exactly when a key of the keyring signed the segments. -/
theorem authenticate_ok {done : Unit} :
    authenticate keyring first second third header = .ok done ↔ Signed keyring first second third header := by
  rw [authenticate, member_next, asciiEncode_segments firstAscii secondAscii]
  constructor
  · rintro ⟨members, rfl, accepted⟩
    obtain ⟨entry, resolved, accepted⟩ := Raises.bind_ok.mp accepted
    obtain ⟨_, ⟨⟩, accepted⟩ := member_next.mp accepted
    obtain ⟨bound, accepted⟩ := demand_next.mp accepted
    obtain ⟨signature, decodedThird, accepted⟩ := Raises.bind_ok.mp accepted
    obtain ⟨input, read, accepted⟩ := Raises.bind_ok.mp accepted
    obtain rfl := Except.ok.inj read
    obtain ⟨found, hashed, listed⟩ := resolve_ok.mp resolved
    exact ⟨members, found, entry, signature, rfl, hashed, listed, bound, b64u_ok.mp decodedThird,
      demand_ok.mp accepted⟩
  · rintro ⟨members, found, entry, signature, rfl, hashed, listed, bound, decodedThird, verified⟩
    refine ⟨members, rfl, Raises.bind_ok.mpr ⟨entry, resolve_ok.mpr ⟨found, hashed, listed⟩, ?_⟩⟩
    refine member_next.mpr ⟨members, rfl, demand_next.mpr ⟨bound, ?_⟩⟩
    refine Raises.bind_ok.mpr ⟨signature, b64u_ok.mpr decodedThird, ?_⟩
    exact Raises.bind_ok.mpr ⟨_, rfl, demand_ok.mpr verified⟩

end Header

section Payload

/-- The claims are checked without another exception exactly on an object. -/
theorem only_acceptClaims :
    Only IsAuth (acceptClaims settings now payload) ↔ ∃ members, payload = .dict members := by
  rw [acceptClaims, only_member_next]
  refine exists_congr fun members => and_iff_left_of_imp fun object => ?_
  subst object
  rw [only_demand_next]
  intro _
  rw [only_member_next]
  refine ⟨members, rfl, only_demand_next.mpr fun _ => ?_⟩
  rw [only_member_next]
  exact ⟨members, rfl, only_demand _ _⟩

/-- A setting that is empty is not compared. -/
theorem unless_empty {text : PyStr} {accepted : Bool} :
    (text.isEmpty || accepted) = true ↔ (text ≠ [] → accepted = true) := by
  cases text <;> simp

/-- The claims are accepted exactly when they hold. -/
theorem acceptClaims_ok {done : Unit} :
    acceptClaims settings now (.dict members) = .ok done ↔ Claims settings now members := by
  rw [acceptClaims, member_next]
  constructor
  · rintro ⟨_, ⟨⟩, accepted⟩
    obtain ⟨expiry, accepted⟩ := demand_next.mp accepted
    obtain ⟨_, ⟨⟩, accepted⟩ := member_next.mp accepted
    obtain ⟨issuer, accepted⟩ := demand_next.mp accepted
    obtain ⟨_, ⟨⟩, accepted⟩ := member_next.mp accepted
    exact ⟨expiry, unless_empty.mp issuer, unless_empty.mp (demand_ok.mp accepted)⟩
  · rintro ⟨expiry, issuer, audience⟩
    refine ⟨members, rfl, demand_next.mpr ⟨expiry, member_next.mpr ⟨members, rfl, ?_⟩⟩⟩
    refine demand_next.mpr ⟨unless_empty.mpr issuer, member_next.mpr ⟨members, rfl, ?_⟩⟩
    exact demand_ok.mpr (unless_empty.mpr audience)

/-- A value is iterated exactly when a set can be made of it. -/
theorem iterate_ok {value : Value} : (∃ items, iterate value = .ok items) ↔ Iterable value := by
  have listed : ∀ items : List Value, (∃ kept, (if items.all hashable then .ok items
      else .error .typeError : Result (List Value)) = .ok kept) ↔ items.all hashable = true := by
    intro items
    split
    case isTrue holds => exact ⟨fun _ => holds, fun _ => ⟨items, rfl⟩⟩
    case isFalse fails => exact ⟨(by rintro ⟨_, ⟨⟩⟩), fun holds => absurd holds fails⟩
  cases value with
  | list items => exact listed items
  | tuple items => exact listed items
  | str text => exact ⟨fun _ => trivial, fun _ => ⟨_, rfl⟩⟩
  | dict members => exact ⟨fun _ => trivial, fun _ => ⟨_, rfl⟩⟩
  | none => exact ⟨(by rintro ⟨_, ⟨⟩⟩), False.elim⟩
  | bool flag => exact ⟨(by rintro ⟨_, ⟨⟩⟩), False.elim⟩
  | int number => exact ⟨(by rintro ⟨_, ⟨⟩⟩), False.elim⟩
  | float number => exact ⟨(by rintro ⟨_, ⟨⟩⟩), False.elim⟩
  | foreign typeName => exact ⟨(by rintro ⟨_, ⟨⟩⟩), False.elim⟩

/-- A set is made of what is missing or falsy, or can be iterated. -/
theorem setOf_ok {found : Option Value} :
    (∃ items, setOf found = .ok items) ↔ ∀ roles, found = some roles → roles.truthy = true → Iterable roles := by
  cases found with
  | none => exact ⟨fun _ _ absurdity => (by cases absurdity), fun _ => ⟨_, rfl⟩⟩
  | some value =>
    rw [setOf]
    by_cases present : value.truthy = true
    · rw [if_pos present, iterate_ok]
      exact ⟨fun iterable _ same _ => Option.some.inj same ▸ iterable, fun all => all value rfl present⟩
    · rw [if_neg present]
      exact ⟨fun _ _ same holds => absurd (Option.some.inj same ▸ holds) present, fun _ => ⟨_, rfl⟩⟩

/-- The roles of a value are read exactly when it has roles. -/
theorem rolesIn_ok {value : Value} : (∃ roles, rolesIn value = .ok roles) ↔ HasRoles value := by
  simp only [rolesIn, Result.bind_ok, get_dict, HasRoles, ← setOf_ok]
  constructor
  · rintro ⟨roles, _, ⟨members, rfl, rfl⟩, read⟩
    exact ⟨members, rfl, roles, read⟩
  · rintro ⟨members, rfl, roles, read⟩
    exact ⟨roles, _, ⟨members, rfl, rfl⟩, read⟩

/-- The roles of all clients are read exactly when each has roles. -/
theorem clientRoles_ok {clients : List (Key × Value)} :
    (∃ roles, clientRoles clients = .ok roles) ↔ ∀ client ∈ clients, HasRoles client.2 := by
  induction clients with
  | nil => exact ⟨fun _ _ absurdity => (by cases absurdity), fun _ => ⟨_, rfl⟩⟩
  | cons client rest inductionHypothesis =>
    rw [List.forall_mem_cons, ← inductionHypothesis, ← rolesIn_ok]
    simp only [clientRoles, Result.bind_ok]
    constructor
    · rintro ⟨_, here, read, others, readOthers, _⟩
      exact ⟨⟨here, read⟩, others, readOthers⟩
    · rintro ⟨⟨here, read⟩, others, readOthers⟩
      exact ⟨_, here, read, others, readOthers, rfl⟩

/-- Only an object has values. -/
theorem valuesOf_ok {value : Value} {clients : List (Key × Value)} :
    valuesOf value = .ok clients ↔ value = .dict clients := by
  cases value <;> simp [valuesOf]

/-- The clients can be read when the resources are falsy or an object. -/
theorem clientsOf_ok {found : Option Value} {holds : List (Key × Value) → Prop} (empty : holds []) :
    (∃ clients, clientsOf found = .ok clients ∧ holds clients) ↔
      ∀ resources, found = some resources → resources.truthy = true →
        ∃ clients, resources = .dict clients ∧ holds clients := by
  cases found with
  | none => exact ⟨fun _ _ absurdity => (by cases absurdity), fun _ => ⟨[], rfl, empty⟩⟩
  | some value =>
    rw [clientsOf]
    by_cases present : value.truthy = true
    · rw [if_pos present]
      simp only [valuesOf_ok]
      exact ⟨fun object _ same _ => Option.some.inj same ▸ object, fun all => all value rfl present⟩
    · rw [if_neg present]
      exact ⟨fun _ _ same truthy => absurd (Option.some.inj same ▸ truthy) present, fun _ => ⟨[], rfl, empty⟩⟩

/-- The roles can be read exactly from a payload of the right shape. -/
theorem rolesOf_ok : (∃ roles, rolesOf (.dict members) = .ok roles) ↔ WellShaped members := by
  have realmOf : (Value.dict members).get? (py "realm_access") = .ok (Value.lookup (key "realm_access") members) :=
    rfl
  have resourceOf : (Value.dict members).get? (py "resource_access") =
      .ok (Value.lookup (key "resource_access") members) := rfl
  have noClients : ∃ roles, clientRoles [] = .ok roles := ⟨[], rfl⟩
  have clients := @clientsOf_ok (Value.lookup (key "resource_access") members)
    (fun clients => ∃ roles, clientRoles clients = .ok roles) noClients
  simp only [clientRoles_ok] at clients
  rw [rolesOf, realmOf, resourceOf]
  simp only [Result.ok_bind, Result.bind_ok]
  constructor
  · rintro ⟨_, realm, read, found, listed, others, readOthers, _⟩
    exact ⟨rolesIn_ok.mp ⟨realm, read⟩,
      clients.mp ⟨found, listed, clientRoles_ok.mp ⟨others, readOthers⟩⟩⟩
  · rintro ⟨realm, shaped⟩
    obtain ⟨realmRoles, read⟩ := rolesIn_ok.mpr realm
    obtain ⟨found, listed, each⟩ := clients.mpr shaped
    obtain ⟨others, readOthers⟩ := clientRoles_ok.mpr each
    exact ⟨_, realmRoles, read, found, listed, others, readOthers, rfl⟩

/-- The subject raises nothing else. -/
theorem only_subjectOf (found : Option Value) : Only IsAuth (subjectOf found) := by
  unfold subjectOf
  split
  case _ =>
    split
    case isTrue => exact only_error.mpr ⟨_, rfl⟩
    case isFalse => exact only_ok _
  case _ => exact only_error.mpr ⟨_, rfl⟩

/-- The identity is read without another exception exactly from a well-shaped payload. -/
theorem only_identityOf : Only IsAuth (identityOf tables (.dict members)) ↔ WellShaped members := by
  rw [identityOf, only_lift_next, ← rolesOf_ok]
  refine exists_congr fun roles => and_iff_left_of_imp fun _ => ?_
  rw [only_member_next]
  refine ⟨members, rfl, (only_next (only_subjectOf _)).mpr fun subject _ => ?_⟩
  rw [only_member_next]
  refine ⟨members, rfl, ?_⟩
  rw [only_member_next]
  exact ⟨members, rfl, only_ok _⟩

end Payload

/-- Only `AuthError` leaves the verification exactly when the token is foreseen. -/
theorem only_verifyBearer : Only IsAuth (verifyBearer interpreter tables keyring settings now token) ↔
    Foreseen interpreter keyring settings now token := by
  by_cases segments : ∃ first second third, token.splitOn (.scalar '.') = [first, second, third]
  case neg =>
    constructor
    · exact fun _ first second third split => absurd ⟨first, second, third, split⟩ segments
    · intro _
      rw [verifyBearer]
      split
      case _ first second third split => exact absurd ⟨first, second, third, split⟩ segments
      case _ => exact only_error.mpr ⟨_, rfl⟩
  case pos =>
    obtain ⟨first, second, third, split⟩ := segments
    have same : Foreseen interpreter keyring settings now token ↔ ∀ headerBytes, decoded first = some headerBytes →
        ∃ header, Scanner.loads interpreter (.bytes headerBytes) = .ok header ∧
          ∀ payloadBytes, decoded second = some payloadBytes →
            ∃ payload, Scanner.loads interpreter (.bytes payloadBytes) = .ok payload ∧
              HeaderForeseen header ∧
              (Signed keyring first second third header → PayloadForeseen settings now payload) := by
      constructor
      · exact fun foreseen => foreseen first second third split
      · intro foreseen one two three other
        obtain ⟨rfl, rfl, rfl⟩ : first = one ∧ second = two ∧ third = three := by
          simpa using split.symm.trans other
        exact foreseen
    rw [same, verifyBearer_parts split, only_b64u_next]
    refine forall_congr' fun headerBytes => forall_congr' fun firstDecoded => ?_
    rw [jsonOf, only_lift_next]
    refine exists_congr fun header => and_congr_right fun _ => ?_
    rw [only_b64u_next]
    refine forall_congr' fun payloadBytes => forall_congr' fun secondDecoded => ?_
    rw [jsonOf, only_lift_next]
    refine exists_congr fun payload => and_congr_right fun _ => ?_
    have firstAscii := decoded_ascii firstDecoded
    have secondAscii := decoded_ascii secondDecoded
    rw [only_bind, only_authenticate firstAscii secondAscii]
    refine and_congr_right fun _ => ?_
    constructor
    · intro each signed
      have rest := each () ((authenticate_ok firstAscii secondAscii).mpr signed)
      obtain ⟨claims, identity⟩ := only_bind.mp rest
      obtain ⟨members, rfl⟩ := only_acceptClaims.mp claims
      exact ⟨members, rfl, fun holds => only_identityOf.mp (identity () (acceptClaims_ok.mpr holds))⟩
    · intro each _ accepted
      obtain ⟨members, rfl, shaped⟩ := each ((authenticate_ok firstAscii secondAscii).mp accepted)
      refine only_bind.mpr ⟨only_acceptClaims.mpr ⟨members, rfl⟩, fun _ accepted => ?_⟩
      exact only_identityOf.mpr (shaped (acceptClaims_ok.mp accepted))

/-- An identity is returned only for a token that the keyring vouches for. -/
theorem verifyBearer_sound {identity : Identity}
    (verified : verifyBearer interpreter tables keyring settings now token = .ok identity) :
    Vouched interpreter keyring settings now token := by
  by_cases segments : ∃ first second third, token.splitOn (.scalar '.') = [first, second, third]
  case neg =>
    rw [verifyBearer] at verified
    split at verified
    case _ first second third split => exact absurd ⟨first, second, third, split⟩ segments
    case _ => cases verified
  case pos =>
    obtain ⟨first, second, third, split⟩ := segments
    rw [verifyBearer_parts split] at verified
    obtain ⟨headerBytes, firstDecoded, verified⟩ := Raises.bind_ok.mp verified
    obtain ⟨header, loaded, verified⟩ := Raises.bind_ok.mp verified
    obtain ⟨payloadBytes, secondDecoded, verified⟩ := Raises.bind_ok.mp verified
    obtain ⟨payload, loadedPayload, verified⟩ := Raises.bind_ok.mp verified
    obtain ⟨_, accepted, verified⟩ := Raises.bind_ok.mp verified
    obtain ⟨_, claims, _⟩ := Raises.bind_ok.mp verified
    have firstAscii := decoded_ascii (b64u_ok.mp firstDecoded)
    have secondAscii := decoded_ascii (b64u_ok.mp secondDecoded)
    obtain ⟨members, rfl⟩ := (@only_acceptClaims settings now payload).mp fun problem raised => by
      rw [claims] at raised
      cases raised
    exact ⟨first, second, third, headerBytes, payloadBytes, header, members, split, b64u_ok.mp firstDecoded,
      lift_ok.mp loaded, b64u_ok.mp secondDecoded, lift_ok.mp loadedPayload,
      (authenticate_ok firstAscii secondAscii).mp accepted, acceptClaims_ok.mp claims⟩

/-- The header presents the token. -/
def Presents (tables : Unicode) (authorization token : PyStr) : Prop :=
  authorization.take 7 = py "Bearer " ∧ PyStr.strip tables (authorization.drop 7) = token

/-- The token is answered with an identity that the keyring vouches for or with an
`AuthError`, and a request that presents it with an identity or with 401. -/
structure Answered (interpreter : Scanner.Interpreter) (tables : Unicode) (keyring : Keyring)
    (settings : OidcSettings) (now : Int) (token : PyStr) : Prop where
  verified : (∃ identity, verifyBearer interpreter tables keyring settings now token = .ok identity ∧
      Vouched interpreter keyring settings now token) ∨
    ∃ reason, verifyBearer interpreter tables keyring settings now token = .error (.authError reason)
  replied : ∀ authorization, Presents tables authorization token →
    (∃ identity, getIdentity interpreter tables (some keyring) settings now authorization = .ok identity) ∨
      ∃ reason, getIdentity interpreter tables (some keyring) settings now authorization =
        .error (.httpException 401 reason)

/-- A presented token gets the reply of its verification. -/
theorem getIdentity_presented (configured : settings.configured = true) {authorization : PyStr}
    (presents : Presents tables authorization token) :
    getIdentity interpreter tables (some keyring) settings now authorization =
      match verifyBearer interpreter tables keyring settings now token with
      | .ok identity => .ok identity
      | .error (.authError reason) => .error (.httpException 401 reason)
      | .error (.other problem) => .error problem := by
  obtain ⟨bearer, rfl⟩ := presents
  have ready : ¬ (!settings.configured) = true := by simp [configured]
  cases answer : verifyBearer interpreter tables keyring settings now
      (PyStr.strip tables (authorization.drop 7)) with
  | ok identity => rw [getIdentity, if_neg ready, if_neg (not_not.mpr bearer), answer]
  | error raised =>
    cases raised with
    | authError reason => rw [getIdentity, if_neg ready, if_neg (not_not.mpr bearer), answer]
    | other problem => rw [getIdentity, if_neg ready, if_neg (not_not.mpr bearer), answer]

/-- A token is answered exactly when it is foreseen. -/
theorem verifyBearer_iff (configured : settings.configured = true) :
    Answered interpreter tables keyring settings now token ↔
      Foreseen interpreter keyring settings now token := by
  rw [← @only_verifyBearer interpreter tables keyring settings now token]
  constructor
  · rintro ⟨⟨identity, verified, _⟩ | ⟨reason, refused⟩, _⟩
    · rw [verified]
      exact only_ok identity
    · rw [refused]
      exact only_error.mpr ⟨reason, rfl⟩
  · intro only
    cases verified : verifyBearer interpreter tables keyring settings now token with
    | ok identity =>
      refine ⟨Or.inl ⟨identity, verified, verifyBearer_sound verified⟩, fun authorization presents => ?_⟩
      rw [getIdentity_presented configured presents, verified]
      exact Or.inl ⟨identity, rfl⟩
    | error raised =>
      obtain ⟨reason, rfl⟩ := only raised verified
      refine ⟨Or.inr ⟨reason, verified⟩, fun authorization presents => ?_⟩
      rw [getIdentity_presented configured presents, verified]
      exact Or.inr ⟨reason, rfl⟩

section Sample

/-- A keyring with one key, under which no signature verifies. -/
def sampleKeyring : Keyring := ⟨[(.str (py "k1"), ⟨.edDsa, fun _ _ => false⟩)], by simp⟩

/-- Settings with an issuer and no audience. -/
def sampleSettings : OidcSettings := ⟨[], py "/etc/jwks.json", py "https://issuer.example", []⟩

/-- A token of one segment. -/
theorem verifyBearer_sample :
    Answered Jcs.sampleInterpreter .ascii sampleKeyring sampleSettings 0 (py "opaque") := by
  refine (verifyBearer_iff (by decide)).mpr fun first second third split => ?_
  have single : (py "opaque").splitOn (.scalar '.') = [py "opaque"] := by decide
  rw [single] at split
  cases split

/-- The header of this token is the text `x`, which is no JSON. -/
theorem notJson_escapes :
    verifyBearer Jcs.sampleInterpreter .ascii sampleKeyring sampleSettings 0 (py "eA.e30.AA") =
      .error (.other .valueError) ∧
    getIdentity Jcs.sampleInterpreter .ascii (some sampleKeyring) sampleSettings 0 (py "Bearer eA.e30.AA") =
      .error .valueError ∧
    ¬ Answered Jcs.sampleInterpreter .ascii sampleKeyring sampleSettings 0 (py "eA.e30.AA") := by
  have raised : verifyBearer Jcs.sampleInterpreter .ascii sampleKeyring sampleSettings 0 (py "eA.e30.AA") =
      .error (.other .valueError) := rfl
  have presents : Presents .ascii (py "Bearer eA.e30.AA") (py "eA.e30.AA") := ⟨by decide, by decide⟩
  refine ⟨raised, ?_, ?_⟩
  · rw [getIdentity_presented (by decide) presents, raised]
  · rintro ⟨⟨identity, verified, _⟩ | ⟨reason, refused⟩, _⟩
    · cases raised.symm.trans verified
    · cases raised.symm.trans refused

end Sample

end TaxStamps.Auth
