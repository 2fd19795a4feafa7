import TaxStamps.Events.Tamper
import TaxStamps.Invariants.Pipeline
import TaxStamps.Invariants.Verdicts

/-!
# Who consumes a stamp

One key signs the credentials of the stamps, those of the status lists and the events. A
field scan with a credential that was not forged is valid exactly when it presents the
credential of the stamp it names, under any signature that verifies, and the stamp is
ACTIVE and within its validity.
-/

namespace TaxStamps.Gate

open Api Verify Attempts StatusLists

variable {env : Env} {db : Db}

section Documents

/-- The proof of a document, empty if it has none. -/
def proofOf (document : List (Key × Value)) : List (Key × Value) :=
  match Value.lookup (key "proof") document with
  | some (.dict proof) => proof
  | _ => []

/-- What is signed of a document. -/
def content (document : List (Key × Value)) : List (Key × Value) := Value.without (py "proof") document

/-- What is signed of its proof. -/
def options (document : List (Key × Value)) : List (Key × Value) :=
  Value.without (py "proofValue") (proofOf document)

/-- JSON-equal but for the proof value, which is a signature of the same message. -/
structure UpToSignature (env : Env) (credential stored : List (Key × Value)) : Prop where
  rest : (Value.dict (content credential)).JsonEq (.dict (content stored))
  proof : (Value.dict (options credential)).JsonEq (.dict (options stored))
  signed : ∃ text signature message,
    Value.lookup (key "proofValue") (proofOf credential) = some (.str (.scalar 'z' :: text)) ∧
    Vc.base58btcDecode text = .ok signature ∧
    Vc.hashData env (content stored) (options stored) = .ok message ∧
    env.verify signature message = true

/-- The documents of the tables that were signed as credentials. -/
inductive Held (db : Db) : List (Key × Value) → Prop
  | stamp {stamp : Stamp} {document : List (Key × Value)} (stored : stamp ∈ db.stamps)
      (held : stamp.credential = .dict document) : Held db document
  | list {row : StatusListSnapshot} {document : List (Key × Value)} (stored : row ∈ db.statusListSnapshots)
      (held : row.credential = .dict document) : Held db document

/-- The messages whose signature was committed. The hash tells what was signed of the
document from what the credential states. -/
inductive Committed (env : Env) (db : Db) (credential : List (Key × Value)) : Bytes → Prop
  | document {document : List (Key × Value)} {message : Bytes} (held : Held db document)
      (hashed : Vc.hashData env (content document) (options document) = .ok message)
      (contentsApart : Vc.Apart env (content credential) (content document))
      (optionsApart : Vc.Apart env (options credential) (options document)) : Committed env db credential message
  | event {row : OutboxMessage} {payload : Bytes} (queued : row ∈ db.outboxMessages)
      (carries : Envelope.Carries row.envelope (Outbox.jwsSign env payload)) :
      Committed env db credential (Outbox.asciiBytes (Outbox.signatureInput payload))

/-- A signature that verifies with the credential is of a message that was committed. -/
def Genuine (env : Env) (db : Db) (credential : List (Key × Value)) : Prop :=
  ∀ accepted : Vc.Accepted env credential, Committed env db credential accepted.message

variable {credential stored : List (Key × Value)}

/-- What is signed of a document has its members but the proof. -/
theorem lookup_content {name : PyStr} (other : name ≠ py "proof") (document : List (Key × Value)) :
    Value.lookup (.str name) (content document) = Value.lookup (.str name) document :=
  Value.lookup_without_other (fun same => other (Key.str.inj same)) document

/-- What is signed of a proof has its members but the proof value. -/
theorem lookup_options {name : PyStr} (other : name ≠ py "proofValue") (document : List (Key × Value)) :
    Value.lookup (.str name) (options document) = Value.lookup (.str name) (proofOf document) :=
  Value.lookup_without_other (fun same => other (Key.str.inj same)) (proofOf document)

/-- The proof is the looked-up dict. -/
theorem proofOf_eq {proof : List (Key × Value)}
    (carries : Value.lookup (key "proof") credential = some (.dict proof)) : proofOf credential = proof := by
  rw [proofOf, carries]

/-- The proof of a well-formed document is well formed. -/
theorem proofOf_wellFormed (wellFormed : (Value.dict credential).WellFormed) :
    (Value.dict (proofOf credential)).WellFormed := by
  unfold proofOf
  split
  case _ proof carries => exact Value.wellFormed_lookup wellFormed carries
  case _ => exact Value.wellFormed_dict.mpr ⟨List.nodup_nil, fun _ absent => absurd absent List.not_mem_nil⟩

/-- What is signed of a well-formed document is well formed. -/
theorem content_wellFormed (wellFormed : (Value.dict credential).WellFormed) :
    (Value.dict (content credential)).WellFormed :=
  Value.wellFormed_without wellFormed _

/-- What is signed of its proof is well formed. -/
theorem options_wellFormed (wellFormed : (Value.dict credential).WellFormed) :
    (Value.dict (options credential)).WellFormed :=
  Value.wellFormed_without (proofOf_wellFormed wellFormed) _

/-- An accepted credential's message is that of its two signed parts. -/
theorem accepted_hashed (accepted : Vc.Accepted env credential) :
    Vc.hashData env (content credential) (options credential) = .ok accepted.message := by
  rw [content, options, proofOf_eq accepted.carries]
  exact accepted.hashed

/-- A member of two documents that are JSON-equal but for the signature. -/
theorem UpToSignature.lookup (same : UpToSignature env credential stored) (name : PyStr)
    (other : name ≠ py "proof") :
    (Value.lookup (.str name) credential).map Value.denote = (Value.lookup (.str name) stored).map Value.denote := by
  rw [← lookup_content other, ← lookup_content other stored]
  exact Value.lookup_meaning same.rest name

/-- An accepted credential that was signed for a document is that document. -/
theorem upToSignature (wellFormed : (Value.dict credential).WellFormed)
    (storedWellFormed : (Value.dict stored).WellFormed) (accepted : Vc.Accepted env credential)
    (hashed : Vc.hashData env (content stored) (options stored) = .ok accepted.message)
    (contentsApart : Vc.Apart env (content credential) (content stored))
    (optionsApart : Vc.Apart env (options credential) (options stored)) : UpToSignature env credential stored := by
  obtain ⟨sameContent, sameOptions⟩ := Vc.hashData_binds (accepted_hashed accepted) hashed
    (content_wellFormed wellFormed) (content_wellFormed storedWellFormed) (options_wellFormed wellFormed)
    (options_wellFormed storedWellFormed) contentsApart optionsApart
  refine ⟨sameContent, sameOptions, accepted.proofValue, accepted.signature, accepted.message, ?_, accepted.decoded,
    hashed, accepted.signed⟩
  rw [proofOf_eq accepted.carries]
  exact accepted.valued

/-- No event has a message of the length of two hashes. -/
theorem event_longer (accepted : Vc.Accepted env credential) (payload : Bytes) :
    accepted.message ≠ Outbox.asciiBytes (Outbox.signatureInput payload) := by
  intro same
  have short := Vc.hashData_length accepted.hashed
  have long := Outbox.signatureInput_long payload
  rw [← same, short] at long
  omega

end Documents

section Sealed

/-- A signed document as it comes back from its column. -/
structure Sealed (env : Env) (members : List (Key × Value)) where
  document : List (Key × Value)
  method : PyStr
  created : PyStr
  signed : List (Key × Value)
  issued : Vc.issueProof env document method created = .ok signed
  plain : (Value.dict document).plain = true
  methodStorable : method.all Code.storable = true
  createdStorable : created.all Code.storable = true
  same : (Value.dict members).JsonEq (.dict signed)
  wellFormed : (Value.dict members).WellFormed

/-- The parts of a sealed document are JSON-equal to those that were signed. -/
theorem Sealed.parts (stamped : Sealed env stored) :
    (Value.dict (content stored)).JsonEq (.dict stamped.document) ∧
      (Value.dict (options stored)).JsonEq (.dict (Vc.proofOptions stamped.method stamped.created)) := by
  obtain ⟨unsigned, message, _, signed⟩ := Vc.issueProof_ok stamped.issued
  have same := stamped.same
  rw [signed] at same
  obtain ⟨proofStored, present, equalProof⟩ := Value.lookup_stored same (by rw [Value.lookup_append, unsigned]; rfl)
  obtain ⟨proof, rfl, _⟩ := Value.denote_obj equalProof
  have contents := Value.without_jsonEq same (py "proof")
  rw [Vc.document_kept _ unsigned] at contents
  have stated := Value.without_jsonEq equalProof (py "proofValue")
  rw [Vc.options_kept] at stated
  refine ⟨contents, ?_⟩
  rw [options, proofOf_eq present]
  exact stated

/-- A sealed document verifies. -/
theorem Sealed.verifies (stamped : Sealed env stored) : Vc.verifyProof env stored = .ok () :=
  Vc.stored_verifies stamped.issued stamped.plain stamped.methodStorable stamped.createdStorable stamped.wellFormed
    stamped.same

/-- Under any signature that verifies it is accepted. -/
theorem UpToSignature.verifies (stamped : Sealed env stored) (wellFormed : (Value.dict credential).WellFormed)
    (same : UpToSignature env credential stored) : Vc.verifyProof env credential = .ok () := by
  obtain ⟨contents, stated⟩ := stamped.parts
  obtain ⟨text, signature, message, valued, decoded, hashed, signed⟩ := same.signed
  have optionsPlain := Vc.options_plain stamped.methodStorable stamped.createdStorable
  have carries : Value.lookup (key "proof") credential = some (.dict (proofOf credential)) := by
    unfold proofOf at valued ⊢
    split at valued
    case _ proof present => simp only [present]
    case _ => cases valued
  have rehashed : Vc.hashData env (content credential) (options credential) = .ok message := by
    rw [← hashed, Vc.hashData_jsonEq stamped.plain optionsPlain (content_wellFormed wellFormed)
      (options_wellFormed wellFormed) (same.rest.trans contents) (same.proof.trans stated),
      Vc.hashData_jsonEq stamped.plain optionsPlain (content_wellFormed stamped.wellFormed)
      (options_wellFormed stamped.wellFormed) contents stated]
  have option : ∀ {name value : PyStr}, name ≠ py "proofValue" →
      Value.lookup (.str name) (Vc.proofOptions stamped.method stamped.created) = some (.str value) →
      Value.lookup (.str name) (proofOf credential) = some (.str value) := by
    intro name value other found
    rw [← lookup_options other]
    exact Value.lookup_stored_text (same.proof.trans stated) found
  refine Vc.verifies_of_accepted ⟨proofOf credential, text, signature, message, carries, ?_, option (by decide) rfl,
    option (by decide) rfl, valued, decoded, rehashed, signed⟩
  intro name member
  simp only [Vc.requiredMembers, List.mem_cons, List.not_mem_nil, or_false] at member
  rcases member with rfl | rfl | rfl | rfl | rfl | rfl
  · exact Option.isSome_of_eq_some (option (by decide) rfl)
  · exact Option.isSome_of_eq_some (option (by decide) rfl)
  · exact Option.isSome_of_eq_some (option (by decide) rfl)
  · exact Option.isSome_of_eq_some (option (by decide) rfl)
  · exact Option.isSome_of_eq_some (option (by decide) rfl)
  · exact Option.isSome_of_eq_some valued

end Sealed

section Stamps

variable {stamp : Stamp}

/-- A stamp's credential is sealed. -/
def sealedOf (held : Credential env stamp) : Sealed env held.members :=
  ⟨_, _, _, held.signed, held.issued, held.plain, verificationMethod_storable env.settings,
    Datetime.isoSeconds_storable held.time, held.same, held.wellFormed⟩

/-- It names the stamp. -/
theorem UpToSignature.names (held : Credential env stamp) (same : UpToSignature env credential held.members) :
    subjectSerial credential = .ok (some (.str stamp.serial)) := by
  obtain ⟨members, present, subject⟩ := held.subject
  have stated := same.lookup (py "credentialSubject") (by decide)
  rw [present, Option.map_some] at stated
  obtain ⟨value, found, equal⟩ := Option.map_eq_some_iff.mp stated
  obtain ⟨others, rfl, _⟩ := Value.denote_obj equal
  have serial : Value.lookup (key "serial") others = some (.str stamp.serial) :=
    Value.lookup_stored_text (equal.trans subject) rfl
  rw [subjectSerial, found]
  simp only [Option.getD_some, Value.get?, serial]

/-- Its status entries are those of the stamp. -/
theorem UpToSignature.entries (held : Credential env stamp) (wellFormed : (Value.dict credential).WellFormed)
    (same : UpToSignature env credential held.members) : ∃ items,
    Value.lookup (key "credentialStatus") credential = some (.list items) ∧
      items.map Value.denote = (entriesFor env stamp.statusListIndex).map Value.denote := by
  obtain ⟨entries, present, denoted⟩ := held.entries
  have stated := same.lookup (py "credentialStatus") (by decide)
  rw [present, Option.map_some] at stated
  obtain ⟨value, found, equal⟩ := Option.map_eq_some_iff.mp stated
  rw [Value.denote, Value.denoteItems_map] at equal
  obtain ⟨items, rfl, meant⟩ := Value.denote_arr (Value.wellFormed_lookup wellFormed found) equal
  exact ⟨items, found, meant.trans denoted⟩

end Stamps

section Lists

/-- A published list names no serial and has no status of its own. -/
structure Unnamed (env : Env) (row : StatusListSnapshot) (document : List (Key × Value)) : Prop where
  held : row.credential = .dict document
  sealed : Nonempty (Sealed env document)
  nameless : ∃ subject, Value.lookup (key "credentialSubject") document = some (.dict subject) ∧
    Value.lookup (key "serial") subject = none
  unstated : Value.lookup (key "credentialStatus") document = none

/-- A published list is a signed document that names no stamp. -/
theorem unnamed_of_published {purpose : PyStr} {version : Int} {list : StatusList} {row : StatusListSnapshot}
    (published : Published env db purpose version list row) : ∃ document, Unnamed env row document := by
  obtain ⟨now, signed, built, kept⟩ := published.credential
  rw [StatusList.build] at built
  split at built
  case isFalse => cases built
  case isTrue known =>
    split at built
    case isTrue => cases built
    case isFalse =>
      have purposeStorable := purpose_storable known
      have methodStorable := verificationMethod_storable env.settings
      have createdStorable := Datetime.isoSeconds_storable now
      have plain := StatusList.document_plain env list (listCredentialId_storable env.settings purposeStorable)
        purposeStorable createdStorable
      have signedPlain := Vc.signed_plain built plain methodStorable createdStorable
      obtain ⟨same, wellFormed⟩ := env.jsonb_restores _ _ (Value.plain_wellFormed signedPlain) kept
      obtain ⟨document, held, _⟩ := Value.denote_obj same
      rw [held] at same wellFormed
      refine ⟨document, held, ⟨⟨_, _, _, signed, built, plain, methodStorable, createdStorable, same, wellFormed⟩⟩, ?_, ?_⟩
      · obtain ⟨_, message, _, rfl⟩ := Vc.issueProof_ok built
        obtain ⟨subject, present, equal⟩ := Value.lookup_stored same
          (StatusList.subject_signed env (listCredentialId env.settings purpose) purpose (Datetime.isoSeconds now) list _)
        obtain ⟨members, rfl, _⟩ := Value.denote_obj equal
        exact ⟨members, present, Option.map_eq_none_iff.mp (Value.lookup_meaning equal (py "serial"))⟩
      · obtain ⟨_, message, _, rfl⟩ := Vc.issueProof_ok built
        exact Option.map_eq_none_iff.mp (Value.lookup_meaning same (py "credentialStatus"))

/-- Every snapshot is a signed document that names no stamp. -/
theorem unnamed (reached : Reachable env db) : ∀ row ∈ db.statusListSnapshots, ∃ document, Unnamed env row document := by
  refine reached.invariant (fun state => ∀ row ∈ state.statusListSnapshots, ∃ document, Unnamed env row document)
    (fun _ absent => absurd absent List.not_mem_nil) ?_
  intro before after known effect
  have appended : ∀ {purpose : PyStr} {version : Int} {list : StatusList} {row : StatusListSnapshot},
      Published env before purpose version list row →
        ∀ other ∈ before.statusListSnapshots ++ [row], ∃ document, Unnamed env other document := by
    intro purpose version list row published other member
    rcases List.mem_append.mp member with old | new
    · exact known other old
    · rw [List.mem_singleton.mp new]
      exact unnamed_of_published published
  cases effect with
  | issued _ chunked => cases chunked <;> exact known
  | scanned _ scanned =>
    cases scanned with
    | suspected _ _ _ _ _ _ published => exact appended published
    | _ => exact known
  | voided _ voided =>
    cases voided with
    | already => exact known
    | voids _ _ _ published => exact appended published
  | _ => exact known

end Lists

section Gate

variable {occasion : Occasion} {verifier : Verifier} {body : VerifyIn} {stampId : Nat} {stamp : Stamp}
  {lists : Lists} {serial : PyStr}

/-- A credential without failures verifies. -/
theorem verifies_of_offline (checked : verifyCredentialOffline env credential lists = .ok []) :
    Vc.verifyProof env credential = .ok () := by
  unfold verifyCredentialOffline at checked
  cases outcome : Vc.verifyProof env credential with
  | ok => rfl
  | error problem =>
    obtain ⟨reason, rfl, _⟩ := verifyProof_refuses outcome
    rw [outcome] at checked
    obtain ⟨reasons, stated, checked⟩ := Result.bind_ok.mp checked
    obtain ⟨entries, _, checked⟩ := Result.bind_ok.mp checked
    obtain ⟨flags, _, checked⟩ := Result.bind_ok.mp checked
    cases stated
    cases checked

/-- A presented credential without failures verifies and names the serial. -/
theorem credible {presented : Option (List (Key × Value))}
    (checked : credentialFailures env presented serial lists = .ok []) : ∃ credential,
    presented = some credential ∧ Vc.verifyProof env credential = .ok () ∧
      subjectSerial credential = .ok (some (.str serial)) := by
  cases presented with
  | none => cases checked
  | some credential =>
    obtain ⟨failures, offline, checked⟩ := Result.bind_ok.mp checked
    obtain ⟨stated, subject, checked⟩ := Result.bind_ok.mp checked
    have named : stated = some (.str serial) ∧ failures = [] := by
      split at checked
      case _ text =>
        split at checked
        case isTrue same => exact ⟨by rw [same], Except.ok.inj checked⟩
        case isFalse => simp at checked
      case _ => simp at checked
    obtain ⟨rfl, rfl⟩ := named
    exact ⟨credential, rfl, verifies_of_offline offline, subject⟩

/-- What a genuine credential is, under any signature that verifies. -/
inductive Source (env : Env) (db : Db) (credential : List (Key × Value)) : Prop
  | stamp {stampId : Nat} {stamp : Stamp} (stored : db.stamps[stampId]? = some stamp)
      (own : Credential env stamp) (same : UpToSignature env credential own.members) : Source env db credential
  | list {row : StatusListSnapshot} {document : List (Key × Value)} (stored : row ∈ db.statusListSnapshots)
      (published : Unnamed env row document) (same : UpToSignature env credential document) : Source env db credential

/-- An accepted and committed credential is a stamp's or a list's, up to its signature. -/
theorem source (reached : Reachable env db) (wellFormed : (Value.dict credential).WellFormed)
    (accepted : Vc.Accepted env credential) (committed : Committed env db credential accepted.message) :
    Source env db credential := by
  generalize same : accepted.message = message at committed
  cases committed with
  | event => exact absurd same (event_longer accepted _)
  | @document document _ held hashed contentsApart optionsApart =>
    subst same
    cases held with
    | @stamp stamp _ present holds =>
      obtain ⟨own⟩ := Credential.of_documented ((Stamps.valid reached).documented stamp present)
      obtain rfl : own.members = document := Value.dict.inj (own.held.symm.trans holds)
      obtain ⟨id, listed⟩ := List.mem_iff_getElem?.mp present
      exact .stamp listed own (upToSignature wellFormed own.wellFormed accepted hashed contentsApart optionsApart)
    | list present holds =>
      obtain ⟨other, published⟩ := unnamed reached _ present
      obtain rfl : other = document := Value.dict.inj (published.held.symm.trans holds)
      obtain ⟨stamped⟩ := published.sealed
      exact .list present published
        (upToSignature wellFormed stamped.wellFormed accepted hashed contentsApart optionsApart)

/-- A genuine credential that names a stamp is the stamp's own. -/
theorem Source.own (source : Source env db credential) (reached : Reachable env db)
    (stored : db.stamps[stampId]? = some stamp)
    (names : subjectSerial credential = .ok (some (.str stamp.serial))) :
    ∃ document, stamp.credential = .dict document ∧ UpToSignature env credential document := by
  cases source with
  | stamp listed own same =>
    have stated := (same.names own).symm.trans names
    obtain rfl := (Stamps.valid reached).serial_unique listed stored (by simpa using stated)
    obtain rfl := Option.some.inj (listed.symm.trans stored)
    exact ⟨own.members, own.held, same⟩
  | list present published same =>
    obtain ⟨subject, lookup, nameless⟩ := published.nameless
    have stated := same.lookup (py "credentialSubject") (by decide)
    rw [lookup, Option.map_some] at stated
    obtain ⟨value, found, equal⟩ := Option.map_eq_some_iff.mp stated
    obtain ⟨others, rfl, _⟩ := Value.denote_obj equal
    have absent : Value.lookup (key "serial") others = none :=
      Option.map_eq_none_iff.mp ((Value.lookup_meaning equal (py "serial")).trans (by rw [nameless]; rfl))
    rw [subjectSerial, found] at names
    simp only [Option.getD_some, Value.get?, absent] at names
    cases names

/-- The offline check of a stamp's own credential fails exactly for a void stamp and for
an accused one. -/
theorem offline_own (reached : Reachable env db) (stored : db.stamps[stampId]? = some stamp)
    (loaded : loadStatusLists env db = .ok lists) (spec : Loaded db purposes lists) (held : Credential env stamp)
    (wellFormed : (Value.dict credential).WellFormed) (same : UpToSignature env credential held.members) :
    verifyCredentialOffline env credential lists = .ok [] ↔
      stamp.status ≠ .void ∧ ¬ Mirror.Accused db.verifications stampId := by
  have stamps := Stamps.valid reached
  obtain ⟨items, present, entries⟩ := same.entries held wellFormed
  obtain ⟨flags, walked, flagged⟩ := Verdicts.flagged_stored spec (stamps.bounded stored) entries
  rw [Verdicts.flag_purposes (Mirror.valid reached) loaded spec (stamps.bounded stored), Mirror.marks_own stamps stored,
    Mirror.marks_own stamps stored, Mirror.Void] at flagged
  have offline : verifyCredentialOffline env credential lists = .ok flags := by
    rw [verifyCredentialOffline, same.verifies (sealedOf held) wellFormed, present]
    simp only [Option.getD_some, entriesOf, Result.ok_bind, walked, List.nil_append]
  rw [offline, ← not_or, ← flagged, ne_eq, not_not, Except.ok.injEq]

/-- Nothing is held against an ACTIVE stamp. -/
theorem unaccused (reached : Reachable env db) (stored : db.stamps[stampId]? = some stamp)
    (active : stamp.status = .active) : stamp.status ≠ .void ∧ ¬ Mirror.Accused db.verifications stampId := by
  rw [active]
  refine ⟨by decide, fun accused => ?_⟩
  rcases (Mirror.valid reached).accused stampId stamp stored accused with same | same
  · cases active.symm.trans same
  · cases active.symm.trans same

/-- The stamp's own credential has no failures. -/
theorem credible_own (reached : Reachable env db) (stored : db.stamps[stampId]? = some stamp)
    (active : stamp.status = .active) (loaded : loadStatusLists env db = .ok lists)
    (spec : Loaded db purposes lists) (held : Credential env stamp)
    (wellFormed : (Value.dict credential).WellFormed) (same : UpToSignature env credential held.members) :
    credentialFailures env (some credential) stamp.serial lists = .ok [] := by
  rw [credentialFailures, (offline_own reached stored loaded spec held wellFormed same).mpr
    (unaccused reached stored active), same.names held]
  simp only [Result.ok_bind, if_true]

/-- What a scan must present to consume a stamp. -/
structure Consumable (env : Env) (db : Db) (time : Datetime) (body : VerifyIn) (stampId : Nat) (stamp : Stamp)
    (credential stored : List (Key × Value)) : Prop where
  presents : Verdicts.Presents env db body.serial stampId stamp
  active : stamp.status = .active
  unscanned : stamp.firstScanAt = none
  current : time < stamp.validUntil
  given : body.credential = some credential
  held : stamp.credential = .dict stored
  same : UpToSignature env credential stored

/-- Such a scan is valid. -/
theorem Consumable.valid {document : List (Key × Value)} (reached : Reachable env db)
    (consumable : Consumable env db occasion.time body stampId stamp credential document) :
    ∃ result after, verify env occasion verifier body db = .ok (result, after) ∧ result.outcome = .valid := by
  obtain ⟨lists, loaded, spec⟩ := loadLists_ok (Mirror.valid reached) purposes
  have stored := consumable.presents.stored
  obtain ⟨own⟩ := Credential.of_documented ((Stamps.valid reached).documented stamp (List.mem_of_getElem? stored))
  have same := consumable.same
  obtain rfl : own.members = document := Value.dict.inj (own.held.symm.trans consumable.held)
  have wellFormed := body.credential_json credential consumable.given
  have unfailed := credible_own reached stored consumable.active loaded spec own wellFormed same
  have fits := stampFits reached stored
  obtain ⟨⟨result, after⟩, answered⟩ := @consumeStamp_accepts env occasion db
    (fieldScan verifier body lists) stamp.serial stampId stamp (fieldScan_columns lists) (fieldScan_carried lists) fits fits.serial
  have locked : verifyLocked env occasion (fieldScan verifier body lists) stamp.serial stampId stamp db =
      .ok (result, after) := by
    have failures : credentialFailures env (fieldScan verifier body lists).credential stamp.serial
        (fieldScan verifier body lists).statusLists = .ok [] := by
      rw [fieldScan, consumable.given]
      exact unfailed
    have late : ¬ stamp.validUntil ≤ occasion.time := not_le.mpr consumable.current
    have consumes : (fieldScan verifier body lists).consume = true := rfl
    rw [verifyLocked, failures]
    simp only [consumable.active, consumable.unscanned, late, consumes, Result.ok_bind]
    simpa using answered
  refine ⟨result, after, ?_, ?_⟩
  · rw [verify, loadStatusLists, loaded, Result.ok_bind, Verdicts.verifyStamp_locked reached consumable.presents]
    exact locked
  · obtain ⟨_, _, answered⟩ := Result.bind_ok.mp answered
    obtain ⟨_, _, answered⟩ := Result.bind_ok.mp answered
    obtain ⟨_, _, answered⟩ := Result.bind_ok.mp answered
    cases answered
    rfl

/-- A field scan is valid exactly when the stamp is ACTIVE and within its validity and the
credential is the stamp's, under any signature that verifies. -/
theorem gate_exact (reached : Reachable env db) (occasion : Occasion) (verifier : Verifier) (body : VerifyIn)
    (genuine : ∀ credential, body.credential = some credential → Genuine env db credential) :
    (∃ result after, verify env occasion verifier body db = .ok (result, after) ∧ result.outcome = .valid) ↔
      ∃ stampId stamp credential stored,
        Consumable env db occasion.time body stampId stamp credential stored := by
  constructor
  · rintro ⟨result, after, verified, valid⟩
    obtain ⟨lists, loaded, verified⟩ := Result.bind_ok.mp verified
    have presented := verifyStamp_ok verified
    rw [valid] at presented
    cases presented with
    | unmatched _ _ refused => rcases refused with same | same <;> cases same
    | matched parsed found scanned =>
      cases scanned with
      | answered _ plain => exact plain.elim
      | @consumes _ live active unscanned _ checked =>
        obtain ⟨stored, named⟩ := Rows.select_some found
        have serial := of_decide_eq_true named
        obtain ⟨credential, given, verifies, names⟩ := credible checked
        obtain ⟨accepted⟩ := Vc.accepted_of_verifies verifies
        rw [← serial] at names
        have source := source reached (body.credential_json credential given) accepted
          (genuine credential given accepted)
        obtain ⟨document, held, same⟩ := source.own reached stored names
        exact ⟨_, _, credential, document, ⟨stored, _, parsed, serial.symm⟩, active, unscanned, live.current.2, given,
          held, same⟩
  · rintro ⟨stampId, stamp, credential, stored, consumable⟩
    exact consumable.valid reached

end Gate

section Public

variable {occasion : Occasion} {request : PublicVerifyIn} {answer : PublicAnswer} {after : Db} {lists : Lists}

/-- The public check stands by a credential: it is that of a stamp that is neither void nor
accused, or that of a list. -/
def Stands (env : Env) (db : Db) (credential : List (Key × Value)) : Prop :=
  (∃ (stampId : Nat) (stamp : Stamp) (document : List (Key × Value)), db.stamps[stampId]? = some stamp ∧
    stamp.credential = .dict document ∧ UpToSignature env credential document ∧ stamp.status ≠ .void ∧
    ¬ Mirror.Accused db.verifications stampId) ∨
  ∃ row ∈ db.statusListSnapshots, ∃ document, row.credential = .dict document ∧ UpToSignature env credential document

/-- The check reports nothing about a list, which has no status of its own. -/
theorem offline_listed {row : StatusListSnapshot} {document : List (Key × Value)} (published : Unnamed env row document)
    (wellFormed : (Value.dict credential).WellFormed) (same : UpToSignature env credential document) :
    verifyCredentialOffline env credential lists = .ok [] := by
  obtain ⟨stamped⟩ := published.sealed
  have unstated : Value.lookup (key "credentialStatus") credential = none := by
    have stated := same.lookup (py "credentialStatus") (by decide)
    rw [published.unstated] at stated
    exact Option.map_eq_none_iff.mp stated
  rw [verifyCredentialOffline, same.verifies stamped wellFormed, unstated]
  rfl

/-- The public check finds no failure in a genuine credential exactly when it stands. -/
theorem offline_exact (reached : Reachable env db) {credential : List (Key × Value)}
    (given : request.credential = some credential) (genuine : Genuine env db credential)
    (answered : verifyPublic env occasion request db = .ok (answer, after)) :
    answer.credentialFailures = some [] ↔ Stands env db credential := by
  have wellFormed := request.credential_json credential given
  obtain ⟨lists, loaded, spec⟩ := loadLists_ok (Mirror.valid reached) purposes
  have checked : ∃ failures, verifyCredentialOffline env credential lists = .ok failures ∧
      answer.credentialFailures = some failures := by
    rw [verifyPublic, given] at answered
    obtain ⟨_, _, answered⟩ := Result.bind_ok.mp answered
    obtain ⟨others, reloaded, answered⟩ := Result.bind_ok.mp answered
    obtain ⟨failures, offline, answered⟩ := Result.bind_ok.mp answered
    obtain ⟨_, _, answered⟩ := Result.bind_ok.mp answered
    cases answered
    obtain rfl := Except.ok.inj (loaded.symm.trans reloaded)
    exact ⟨failures, offline, rfl⟩
  obtain ⟨failures, offline, reported⟩ := checked
  rw [reported, Option.some.injEq]
  constructor
  · rintro rfl
    obtain ⟨accepted⟩ := Vc.accepted_of_verifies (verifies_of_offline offline)
    cases source reached wellFormed accepted (genuine accepted) with
    | stamp stored own same =>
      obtain ⟨kept, trusted⟩ := (offline_own reached stored loaded spec own wellFormed same).mp offline
      exact Or.inl ⟨_, _, own.members, stored, own.held, same, kept, trusted⟩
    | list stored published same => exact Or.inr ⟨_, stored, _, published.held, same⟩
  · rintro (⟨stampId, stamp, document, stored, held, same, trusted⟩ | ⟨row, stored, document, held, same⟩)
    · obtain ⟨own⟩ := Credential.of_documented
        ((Stamps.valid reached).documented stamp (List.mem_of_getElem? stored))
      obtain rfl : own.members = document := Value.dict.inj (own.held.symm.trans held)
      have clean := (offline_own reached stored loaded spec own wellFormed same).mpr trusted
      exact Except.ok.inj (offline.symm.trans clean)
    · obtain ⟨other, published⟩ := unnamed reached row stored
      obtain rfl : other = document := Value.dict.inj (published.held.symm.trans held)
      exact Except.ok.inj (offline.symm.trans (offline_listed published wellFormed same))

end Public

section Sample

/-- What a stamp holds is genuine, and its own. -/
theorem genuine_own (reached : Reachable env db) {stamp : Stamp} (stored : stamp ∈ db.stamps) :
    ∃ own : Credential env stamp, Genuine env db own.members ∧ UpToSignature env own.members own.members := by
  obtain ⟨own⟩ := Credential.of_documented ((Stamps.valid reached).documented stamp stored)
  obtain ⟨accepted⟩ := Vc.accepted_of_verifies own.verifies
  refine ⟨own, fun other => ?_, ?_⟩
  · exact .document (.stamp stored own.held) (accepted_hashed other) (.refl _ _) (.refl _ _)
  · exact upToSignature own.wellFormed own.wellFormed accepted (accepted_hashed accepted) (.refl _ _) (.refl _ _)

/-- The first sample stamp is there to be consumed by a scan with its own credential. -/
theorem sample_consumable : ∃ (body : VerifyIn) (stamp : Stamp) (credential : List (Key × Value)),
    Genuine .sample (Sample.state Sample.activating) credential ∧
    Consumable .sample (Sample.state Sample.activating) Sample.occasion.time body 0 stamp credential credential := by
  obtain ⟨stamp, stored, active, named, current⟩ := Sample.activating_released
  have reached := Sample.state_reachable Sample.activating
  generalize Sample.state Sample.activating = db at stored reached ⊢
  have present := List.mem_of_getElem? stored
  obtain ⟨own, genuine, same⟩ := genuine_own reached present
  have json : ∀ members, some own.members = some members → (Value.dict members).WellFormed := by
    rintro _ ⟨⟩
    exact own.wellFormed
  have unscanned := (Lifecycle.shaped reached stamp present).fresh (Or.inr active)
  exact ⟨{ Sample.scan with credential := some own.members, credential_json := json }, stamp, own.members, genuine,
    Verdicts.sample_presents stored named, active, unscanned, current, rfl, own.held, same⟩

/-- The scan of the first sample stamp with its own credential. -/
theorem gate_exact_sample : ∃ (body : VerifyIn) (result : ScanResult) (after : Db),
    verify .sample Sample.occasion inspector body (Sample.state Sample.activating) = .ok (result, after) ∧
      result.outcome = .valid := by
  obtain ⟨body, stamp, credential, genuine, consumable⟩ := sample_consumable
  have reached := Sample.state_reachable Sample.activating
  generalize Sample.state Sample.activating = db at genuine consumable reached ⊢
  refine ⟨body, (gate_exact reached Sample.occasion inspector body ?_).mpr ⟨0, stamp, credential, credential, consumable⟩⟩
  intro other given
  obtain rfl := Option.some.inj (consumable.given.symm.trans given)
  exact genuine

/-- The public check of the same credential. -/
theorem offline_exact_sample : ∃ (request : PublicVerifyIn) (answer : PublicAnswer) (after : Db),
    verifyPublic .sample Sample.occasion request (Sample.state Sample.activating) = .ok (answer, after) ∧
      answer.credentialFailures = some [] := by
  obtain ⟨stamp, stored, active, named, _⟩ := Sample.activating_released
  have reached := Sample.state_reachable Sample.activating
  generalize Sample.state Sample.activating = db at stored reached ⊢
  obtain ⟨own, genuine, same⟩ := genuine_own reached (List.mem_of_getElem? stored)
  have json : ∀ members, some own.members = some members → (Value.dict members).WellFormed := by
    rintro _ ⟨⟩
    exact own.wellFormed
  obtain ⟨lists, loaded, spec⟩ := loadLists_ok (Mirror.valid reached) purposes
  obtain ⟨kept, trusted⟩ := unaccused reached stored active
  have clean := (offline_own reached stored loaded spec own own.wellFormed same).mpr ⟨kept, trusted⟩
  have readable := (verifyCredentialOffline_iff spec fun _ listed => listed_known reached listed).mp ⟨_, clean⟩
  obtain ⟨parts, parsed, _⟩ := Verdicts.serial_parsed
  let request : PublicVerifyIn :=
    ⟨some Sample.serial, some own.members, none, none, by decide, json, by decide, by decide, rfl⟩
  have answers : PublicAnswers .sample db request := by
    refine ⟨?_, fun _ => ⟨Sample.serial, rfl, Or.inl ⟨parts, parsed⟩⟩⟩
    rintro _ ⟨⟩
    exact ⟨readable, fun absurdity => by cases absurdity⟩
  have recorded : PublicRecorded db request (verifyPublic .sample Sample.occasion request db) :=
    (verifyPublic_iff reached).mpr answers
  obtain ⟨answer, after, answered, _⟩ := recorded
  exact ⟨request, answer, after, answered, (offline_exact reached rfl genuine answered).mpr
    (Or.inl ⟨0, stamp, own.members, stored, own.held, same, kept, trusted⟩)⟩

end Sample

end TaxStamps.Gate
