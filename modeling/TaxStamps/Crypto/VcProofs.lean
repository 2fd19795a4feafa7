import TaxStamps.Crypto.Vc
import TaxStamps.Python.Objects

/-!
# What a proof binds

A signed document that went through the JSONB column still verifies. A document
that verifies was signed over the hash of exactly its JSON value and of its proof
options: as long as the hash does not collide on the texts at hand, two
documents with one signed message are JSON-equal without their proofs, and so
are their proof options.
-/

namespace TaxStamps

namespace Vc

variable {env : Env}

/-- What an accepted document has: a complete proof of the suite, a decodable
proof value, and a signature over the hash of the rest. -/
structure Accepted (env : Env) (document : List (Key × Value)) where
  proof : List (Key × Value)
  proofValue : PyStr
  signature : Bytes
  message : Bytes
  carries : Value.lookup (key "proof") document = some (.dict proof)
  complete : ∀ name ∈ requiredMembers, (Value.lookup (key name) proof).isSome = true
  typed : Value.lookup (key "type") proof = some (Value.literal "DataIntegrityProof")
  suite : Value.lookup (key "cryptosuite") proof = some (Value.literal "eddsa-jcs-2022")
  valued : Value.lookup (key "proofValue") proof = some (.str (.scalar 'z' :: proofValue))
  decoded : base58btcDecode proofValue = .ok signature
  hashed : hashData env (Value.without (py "proof") document)
    (Value.without (py "proofValue") proof) = .ok message
  signed : env.verify signature message = true

/-- A looked-up member is the given text. -/
theorem isText_iff {text : String} {found : Option Value} :
    isText text found = true ↔ found = some (Value.literal text) := by
  cases found with
  | none => simp [isText]
  | some value => cases value <;> simp [isText, Value.literal]

/-- A multibase text is a text behind a `z`. -/
theorem multibase_iff {found : Option Value} {text : PyStr} :
    multibase found = some text ↔ found = some (.str (.scalar 'z' :: text)) := by
  constructor
  · intro stated
    unfold multibase at stated
    split at stated
    · rw [Option.some.inj stated]
    · cases stated
  · rintro rfl
    rfl

/-- A document that verifies is accepted for these reasons. -/
theorem accepted_of_verifies {document : List (Key × Value)}
    (verified : verifyProof env document = .ok ()) : Nonempty (Accepted env document) := by
  unfold verifyProof at verified
  split at verified
  case _ proof carries =>
    split at verified
    · cases verified
    case _ complete =>
      split at verified
      · cases verified
      case _ typed =>
        split at verified
        · cases verified
        case _ suite =>
          split at verified
          · cases verified
          case _ text valued =>
            rw [Result.bind_ok] at verified
            obtain ⟨signature, decoded, verified⟩ := verified
            split at verified
            · cases verified
            case _ message hashed =>
              split at verified
              case isTrue signed =>
                refine ⟨⟨proof, text, signature, message, carries, ?_, ?_, ?_, ?_, decoded, hashed,
                  signed⟩⟩
                · rw [Bool.not_eq_true, Bool.not_eq_false'] at complete
                  exact List.all_eq_true.mp complete
                · exact isText_iff.mp (by simpa using typed)
                · exact isText_iff.mp (by simpa using suite)
                · exact multibase_iff.mp valued
              case isFalse => cases verified
  · cases verified

/-- A document with such a proof verifies. -/
theorem verifies_of_accepted {document : List (Key × Value)} (accepted : Accepted env document) :
    verifyProof env document = .ok () := by
  have complete : (requiredMembers.all
      (fun name => (Value.lookup (key name) accepted.proof).isSome)) = true :=
    List.all_eq_true.mpr accepted.complete
  simp only [verifyProof, accepted.carries, complete, isText_iff.mpr accepted.typed,
    isText_iff.mpr accepted.suite, multibase_iff.mpr accepted.valued, accepted.decoded,
    accepted.hashed, accepted.signed, Bool.not_true, Bool.false_eq_true, if_false, if_true,
    Result.ok_bind]

/-- A signed document is the document, then a proof over the hash of both. -/
theorem issueProof_ok {document signed : List (Key × Value)} {verificationMethod created : PyStr}
    (issued : issueProof env document verificationMethod created = .ok signed) :
    Value.lookup (key "proof") document = none ∧ ∃ message,
      hashData env document (proofOptions verificationMethod created) = .ok message ∧
      signed = document ++ [(key "proof", .dict (proofOptions verificationMethod created ++
        [(key "proofValue", .str (.scalar 'z' :: base58btcEncode (env.sign message)))]))] := by
  unfold issueProof at issued
  split at issued
  · cases issued
  case isFalse absent =>
    rw [Result.bind_ok] at issued
    obtain ⟨message, hashed, written⟩ := issued
    exact ⟨by simpa using absent, message, hashed, (Except.ok.inj written).symm⟩

/-- The options of a proof with storable texts are plain. -/
theorem options_plain {verificationMethod created : PyStr}
    (methodStorable : verificationMethod.all Code.storable = true)
    (createdStorable : created.all Code.storable = true) :
    (Value.dict (proofOptions verificationMethod created)).plain = true := by
  simp only [proofOptions, Value.plain, Value.plainMembers, Value.literal, methodStorable,
    createdStorable, Bool.and_true, List.map_cons, List.map_nil]
  decide

/-- A signed plain document is plain. -/
theorem signed_plain {document signed : List (Key × Value)} {verificationMethod created : PyStr}
    (issued : issueProof env document verificationMethod created = .ok signed)
    (documentPlain : (Value.dict document).plain = true)
    (methodStorable : verificationMethod.all Code.storable = true)
    (createdStorable : created.all Code.storable = true) : (Value.dict signed).plain = true := by
  obtain ⟨unsigned, message, _, rfl⟩ := issueProof_ok issued
  have valueStorable : (Code.scalar 'z' :: base58btcEncode (env.sign message)).all Code.storable = true := by
    rw [List.all_cons, base58_storable]
    rfl
  have proofPlain : (Value.dict (proofOptions verificationMethod created ++ [(key "proofValue",
      .str (.scalar 'z' :: base58btcEncode (env.sign message)))])).plain = true := by
    simp only [proofOptions, Value.plain, Value.plainMembers, Value.literal, methodStorable,
      createdStorable, valueStorable, Bool.and_true, List.map_cons, List.map_nil, List.cons_append,
      List.nil_append]
    decide
  exact Value.plain_append documentPlain unsigned (by decide) proofPlain

/-- The hash of two documents depends on their JSON values only. -/
theorem hashData_jsonEq {document stored options storedOptions : List (Key × Value)}
    (documentPlain : (Value.dict document).plain = true)
    (optionsPlain : (Value.dict options).plain = true)
    (storedWellFormed : (Value.dict stored).WellFormed)
    (storedOptionsWellFormed : (Value.dict storedOptions).WellFormed)
    (sameDocument : (Value.dict stored).JsonEq (.dict document))
    (sameOptions : (Value.dict storedOptions).JsonEq (.dict options)) :
    hashData env stored storedOptions = hashData env document options := by
  rw [hashData, hashData, Jcs.plain_bytes documentPlain storedWellFormed sameDocument,
    Jcs.plain_bytes optionsPlain storedOptionsWellFormed sameOptions]

/-- Removing the proof gives the document back. -/
theorem document_kept {document : List (Key × Value)} (proofValue : Value)
    (unsigned : Value.lookup (key "proof") document = none) :
    Value.without (py "proof") (document ++ [(key "proof", proofValue)]) = document :=
  Value.without_append unsigned proofValue

/-- Removing the proof value gives the options back. -/
theorem options_kept (verificationMethod created : PyStr) (proofValue : Value) :
    Value.without (py "proofValue")
      (proofOptions verificationMethod created ++ [(key "proofValue", proofValue)]) =
      proofOptions verificationMethod created := by
  exact Value.without_append rfl proofValue

/-- The proof value hides no option. -/
theorem options_lookup (verificationMethod created : PyStr) (proofValue : Value) (name : String)
    {found : Value}
    (present : Value.lookup (key name) (proofOptions verificationMethod created) = some found) :
    Value.lookup (key name)
      (proofOptions verificationMethod created ++ [(key "proofValue", proofValue)]) = some found := by
  rw [Value.lookup_append, present]
  rfl

/-- A JSON-equal copy of a signed plain document verifies: the signature is over
the JSON value. -/
theorem stored_verifies {document signed stored : List (Key × Value)}
    {verificationMethod created : PyStr}
    (issued : issueProof env document verificationMethod created = .ok signed)
    (documentPlain : (Value.dict document).plain = true)
    (methodStorable : verificationMethod.all Code.storable = true)
    (createdStorable : created.all Code.storable = true)
    (wellFormed : (Value.dict stored).WellFormed)
    (same : (Value.dict stored).JsonEq (.dict signed)) : verifyProof env stored = .ok () := by
  obtain ⟨unsigned, message, hashed, rfl⟩ := issueProof_ok issued
  have signedProof : Value.lookup (key "proof") (document ++ [(key "proof",
      .dict (proofOptions verificationMethod created ++
        [(key "proofValue", .str (.scalar 'z' :: base58btcEncode (env.sign message)))]))]) =
      some (.dict (proofOptions verificationMethod created ++
        [(key "proofValue", .str (.scalar 'z' :: base58btcEncode (env.sign message)))])) := by
    rw [Value.lookup_append, unsigned]
    rfl
  obtain ⟨proofStored, present, equalProof⟩ := Value.lookup_stored same signedProof
  obtain ⟨proof, rfl, _⟩ := Value.denote_obj equalProof
  have proofWellFormed := Value.wellFormed_lookup wellFormed present
  have text : ∀ (name : String) {value : PyStr}, Value.lookup (key name)
      (proofOptions verificationMethod created) = some (.str value) →
      Value.lookup (key name) proof = some (.str value) := fun name value found =>
    Value.lookup_stored_text equalProof
      (options_lookup verificationMethod created _ name found)
  have valued : Value.lookup (key "proofValue") proof =
      some (.str (.scalar 'z' :: base58btcEncode (env.sign message))) := by
    refine Value.lookup_stored_text equalProof ?_
    rw [Value.lookup_append]
    rfl
  have documents := Value.without_jsonEq same (py "proof")
  rw [document_kept _ unsigned] at documents
  have options := Value.without_jsonEq equalProof (py "proofValue")
  rw [options_kept] at options
  have rehashed : hashData env (Value.without (py "proof") stored)
      (Value.without (py "proofValue") proof) = .ok message :=
    (hashData_jsonEq documentPlain (options_plain methodStorable createdStorable)
      (Value.wellFormed_without wellFormed _) (Value.wellFormed_without proofWellFormed _)
      documents options).trans hashed
  refine verifies_of_accepted ⟨proof, _, _, message, present, ?_, text "type" ?_,
    text "cryptosuite" ?_, valued, base58_restores _, rehashed, env.verify_sign message⟩
  · intro name member
    simp only [requiredMembers, List.mem_cons, List.not_mem_nil, or_false] at member
    rcases member with rfl | rfl | rfl | rfl | rfl | rfl
    · rw [text "type" (by rfl)]; rfl
    · rw [text "cryptosuite" (by rfl)]; rfl
    · rw [text "created" (by rfl)]; rfl
    · rw [text "verificationMethod" (by rfl)]; rfl
    · rw [text "proofPurpose" (by rfl)]; rfl
    · rw [valued]; rfl
  · rfl
  · rfl

/-- No two of the texts in question have one hash. -/
def NoCollision (env : Env) (left right : Bytes) : Prop :=
  env.sha256 left = env.sha256 right → left = right

/-- The hash tells the canonical texts of two dicts apart. -/
def Apart (env : Env) (left right : List (Key × Value)) : Prop :=
  ∀ leftText rightText, Jcs.canonicalizeBytes (.dict left) = .ok leftText →
    Jcs.canonicalizeBytes (.dict right) = .ok rightText → NoCollision env leftText rightText

/-- A document is apart from itself. -/
theorem Apart.refl (env : Env) (document : List (Key × Value)) : Apart env document document := by
  intro left right written rewritten _
  exact Except.ok.inj (written.symm.trans rewritten)

/-- One signed message means one document and one set of proof options. -/
theorem hashData_binds {document other options otherOptions : List (Key × Value)} {message : Bytes}
    (hashed : hashData env document options = .ok message)
    (otherHashed : hashData env other otherOptions = .ok message)
    (wellFormed : (Value.dict document).WellFormed) (otherWellFormed : (Value.dict other).WellFormed)
    (optionsWellFormed : (Value.dict options).WellFormed)
    (otherOptionsWellFormed : (Value.dict otherOptions).WellFormed)
    (documentsApart : Apart env document other) (optionsApart : Apart env options otherOptions) :
    (Value.dict document).JsonEq (.dict other) ∧ (Value.dict options).JsonEq (.dict otherOptions) := by
  rw [hashData, Result.bind_ok] at hashed otherHashed
  obtain ⟨optionBytes, optionsCanonical, hashed⟩ := hashed
  obtain ⟨otherOptionBytes, otherOptionsCanonical, otherHashed⟩ := otherHashed
  rw [Result.bind_ok] at hashed otherHashed
  obtain ⟨documentBytes, documentCanonical, hashed⟩ := hashed
  obtain ⟨otherBytes, otherCanonical, otherHashed⟩ := otherHashed
  have joined := (Except.ok.inj hashed).trans (Except.ok.inj otherHashed).symm
  obtain ⟨optionHashes, documentHashes⟩ := List.append_inj joined
    ((env.sha256_length _).trans (env.sha256_length _).symm)
  obtain rfl := optionsApart _ _ optionsCanonical otherOptionsCanonical optionHashes
  obtain rfl := documentsApart _ _ documentCanonical otherCanonical documentHashes
  exact ⟨Jcs.canonicalizeBytes_faithful wellFormed otherWellFormed documentCanonical otherCanonical,
    Jcs.canonicalizeBytes_faithful optionsWellFormed otherOptionsWellFormed optionsCanonical
      otherOptionsCanonical⟩

/-- A signed message is two hashes long. -/
theorem hashData_length {document options : List (Key × Value)} {message : Bytes}
    (hashed : hashData env document options = .ok message) : message.length = 64 := by
  rw [hashData, Result.bind_ok] at hashed
  obtain ⟨optionBytes, _, hashed⟩ := hashed
  rw [Result.bind_ok] at hashed
  obtain ⟨documentBytes, _, hashed⟩ := hashed
  rw [← Except.ok.inj hashed, List.length_append, env.sha256_length, env.sha256_length]

end Vc

end TaxStamps
